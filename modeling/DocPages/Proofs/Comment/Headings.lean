import DocPages.Proofs.Comment.Occurrence
import DocPages.Proofs.Text.Blank

/-!
# Headings

Whether a line of a comment is a heading depends on the line and its neighbours alone (`IsHeading`). The
parser tests only the lines at which a chunk can start, and still the headings at the top of a document
are exactly these lines, in their order (`headers_parse`).

1. A heading is neither blank nor indented (`headerText?_of_isBlankLine`, `headerText?_of_isIndented`),
   so a run of indented lines holds none (`noHeadings_runTail`).
2. The further lines of a paragraph stand below lines with text, so they are none either
   (`noHeadings_paragraphTail`).
3. Hence the lines that a chunk takes can be passed over, and the header chunks of some lines are their
   headings (`filterMap_header?_chunksFrom`), by induction on the lines.
4. The headings found line by line are those at the places that pass the test (`headingsFrom_eq`).
-/

namespace DocPages

/-- A heading. -/
def Block.isHeader {α : Type} : Block α → Bool
  | header _ _ => true
  | _ => false

namespace Comment

open Text

/-! ## The test of a line -/

/-- Nothing or a blank line stands before the line at `i`. -/
def FollowsBlank (ls : List Line) (i : ℕ) : Prop :=
  i = 0 ∨ ∃ l ∈ ls[i - 1]?, isBlankLine l = true

/-- The line at `i` starts with the mark of a heading and goes on with text, and the next line is blank or
there is none. -/
def IsMarked (ls : List Line) (i : ℕ) : Prop :=
  (∃ l ∈ ls[i]?, ['#', ' '] <+: l ∧ isBlankLine (l.drop 2) = false) ∧
    ∀ l ∈ ls[i + 1]?, isBlankLine l = true

/-- The line at `i` starts with a capital and holds no sentence punctuation, the next line is blank, and
there is text after it. -/
def IsCapital (ls : List Line) (i : ℕ) : Prop :=
  (∃ l ∈ ls[i]?, (∃ c ∈ l.head?, isUppercase c = true) ∧ ∀ c ∈ l, c ∉ nonHeaderChars) ∧
    (∃ l ∈ ls[i + 1]?, isBlankLine l = true) ∧ ∃ l ∈ ls.drop (i + 2), isBlankLine l = false

/-- The line at `i` is a heading. -/
def IsHeading (ls : List Line) (i : ℕ) : Prop :=
  FollowsBlank ls i ∧ (IsMarked ls i ∨ IsCapital ls i)

instance (ls : List Line) (i : ℕ) : Decidable (FollowsBlank ls i) :=
  inferInstanceAs (Decidable (_ ∨ _))

instance (ls : List Line) (i : ℕ) : Decidable (IsMarked ls i) :=
  inferInstanceAs (Decidable (_ ∧ _))

-- The characters of a line are tested one by one; deciding over all characters would not end in practice.
instance (ls : List Line) (i : ℕ) : Decidable (IsCapital ls i) :=
  have (l : Line) : Decidable (∀ c ∈ l, c ∉ nonHeaderChars) := l.decidableBAll _
  have (l : Line) : Decidable (∃ c ∈ l.head?, isUppercase c = true) := l.head?.decidableExistsMem
  inferInstanceAs (Decidable (_ ∧ _))

instance (ls : List Line) (i : ℕ) : Decidable (IsHeading ls i) :=
  inferInstanceAs (Decidable (_ ∧ _))

example : (List.range 7).filter (fun i => IsHeading
    (lines "Usage\n\n  Code\n\nText\nNo heading\n# Nor this".toList) i) = [0] := by
  decide +kernel

/-- A line without the mark of a heading. -/
def headingText (l : Line) : List Char :=
  if ['#', ' '] <+: l then l.drop 2 else l

/-! ## The test of the parser -/

theorem endsBlank_iff {rest : List Line} :
    endsBlank rest = true ↔ ∀ l ∈ rest[0]?, isBlankLine l = true := by
  cases rest <;> simp [endsBlank]

theorem isMarked_zero {l : Line} {rest : List Line} :
    IsMarked (l :: rest) 0 ↔
      ['#', ' '] <+: l ∧ isBlankLine (l.drop 2) = false ∧ endsBlank rest = true := by
  rw [endsBlank_iff]
  simp [IsMarked, and_assoc]

theorem isCapital_zero {l : Line} {rest : List Line} :
    IsCapital (l :: rest) 0 ↔
      ((l.head?.map isUppercase).getD false = true ∧ l.any nonHeaderChars.contains = false) ∧
        (rest.head?.map isBlankLine).getD false = true ∧
          (rest.drop 1).any (!isBlankLine ·) = true := by
  have hfirst : (∃ c ∈ l.head?, isUppercase c = true) ↔
      (l.head?.map isUppercase).getD false = true := by
    cases l <;> simp
  have hnext : (∃ k ∈ rest[0]?, isBlankLine k = true) ↔
      (rest.head?.map isBlankLine).getD false = true := by
    cases rest <;> simp
  rw [← hfirst, ← hnext]
  simp [IsCapital]

/-- A line that starts with a capital does not start with a mark. -/
theorem not_isCapital_of_mark {l : Line} {rest : List Line} (h : ['#', ' '] <+: l) :
    ¬ IsCapital (l :: rest) 0 := by
  obtain ⟨text, rfl⟩ := h
  rw [isCapital_zero]
  rintro ⟨⟨hfirst, -⟩, -⟩
  exact absurd (show isUppercase '#' = true from hfirst) (by decide)

/-- The parser tests what the neighbours of a line say. -/
theorem headerText?_eq (l : Line) (rest : List Line) :
    headerText? l rest =
      if IsMarked (l :: rest) 0 ∨ IsCapital (l :: rest) 0 then some (trim (headingText l))
      else none := by
  unfold headerText? headingText
  split
  · rename_i text htext
    have hmark : ['#', ' '] <+: l := (isSome_dropFront? _ _).1 (by rw [htext]; rfl)
    have hdrop : l.drop 2 = text := by rw [eq_append_of_dropFront? htext]; rfl
    have hcapital : ¬ IsCapital (l :: rest) 0 := not_isCapital_of_mark hmark
    simp only [or_iff_left hcapital, isMarked_zero, hmark,
      true_and, if_true, hdrop, Bool.and_eq_true, Bool.not_eq_true', and_comm]
  · rename_i hnone
    have hmark : ¬ ['#', ' '] <+: l := by
      rw [← isSome_dropFront?, hnone]
      simp
    simp only [isMarked_zero, isCapital_zero, hmark, false_and, false_or, if_false]
    grind

/-! ## Lines that are no headings -/

theorem headerText?_of_isBlankLine {l : Line} (h : isBlankLine l = true) (rest : List Line) :
    headerText? l rest = none := by
  rw [headerText?_eq, if_neg]
  rw [isMarked_zero, isCapital_zero, not_or]
  constructor
  · rintro ⟨⟨text, rfl⟩, -⟩
    exact absurd h (by simp [isBlankLine, show isBlank '#' = false by decide])
  · rintro ⟨⟨hfirst, -⟩, -⟩
    cases l with
    | nil => cases hfirst
    | cons c cs =>
      have hblank := isUppercase_of_isBlank (isBlankLine_iff.1 h c List.mem_cons_self)
      rw [List.head?_cons, Option.map_some, Option.getD_some, hblank] at hfirst
      cases hfirst

theorem headerText?_of_isIndented {l : Line} (h : isIndented l = true) (rest : List Line) :
    headerText? l rest = none := by
  have hspace : isUppercase ' ' = false := by decide
  have htab : isUppercase '\t' = false := by decide
  unfold isIndented at h
  split at h <;> simp_all [headerText?, dropFront?]

/-- The heading at a line, where `afterBlank` says whether a blank line or nothing precedes. -/
def headingAt? (afterBlank : Bool) (l : Line) (rest : List Line) : Option (List Char) :=
  if afterBlank then headerText? l rest else none

/-- The headings of some lines in their order. -/
def headingsFrom : Bool → List Line → List (List Char)
  | _, [] => []
  | afterBlank, l :: ls => (headingAt? afterBlank l ls).toList ++ headingsFrom (isBlankLine l) ls

/-- There is no heading among the first `n` lines. -/
def NoHeadings : Bool → ℕ → List Line → Prop
  | afterBlank, n + 1, l :: ls => headingAt? afterBlank l ls = none ∧ NoHeadings (isBlankLine l) n ls
  | _, _, _ => True

theorem noHeadings_append_of_indented {more : List Line}
    (h : ∀ l ∈ more, isBlankLine l = true ∨ isIndented l = true) (afterBlank : Bool)
    (rest : List Line) : NoHeadings afterBlank more.length (more ++ rest) := by
  induction more generalizing afterBlank with
  | nil => trivial
  | cons l more ih =>
    refine ⟨?_, ih (fun k hk => h k (List.mem_cons_of_mem l hk)) _⟩
    unfold headingAt?
    rcases h l List.mem_cons_self with hl | hl
    · rw [headerText?_of_isBlankLine hl, ite_self]
    · rw [headerText?_of_isIndented hl, ite_self]

theorem noHeadings_append_of_text {more : List Line} (h : ∀ l ∈ more, isBlankLine l = false)
    (rest : List Line) : NoHeadings false more.length (more ++ rest) := by
  induction more with
  | nil => trivial
  | cons l more ih =>
    rw [List.length_cons, List.cons_append, NoHeadings, h l List.mem_cons_self]
    exact ⟨rfl, ih fun k hk => h k (List.mem_cons_of_mem l hk)⟩

theorem noHeadings_runTail (afterBlank : Bool) (ls : List Line) :
    NoHeadings afterBlank (runTail ls).length ls := by
  have hrun : ∀ l ∈ runTail ls, isBlankLine l = true ∨ isIndented l = true := by
    intro l hl
    simpa using List.mem_takeWhile_imp ((takeToLast_isPrefix _ _).subset hl)
  obtain ⟨rest, hrest⟩ := runTail_isPrefix ls
  have hnone := noHeadings_append_of_indented hrun afterBlank rest
  rwa [hrest] at hnone

theorem noHeadings_paragraphTail (ls : List Line) :
    NoHeadings false (paragraphTail ls).length ls := by
  have htext : ∀ l ∈ paragraphTail ls, isBlankLine l = false :=
    fun _ hl => isBlankLine_of_mem_paragraphTail hl
  obtain ⟨rest, hrest⟩ := paragraphTail_isPrefix ls
  have hnone := noHeadings_append_of_text htext rest
  rwa [hrest] at hnone

/-! ## The headings that the parser finds -/

/-- The text of a header chunk. -/
def Chunk.header? : Chunk → Option (List Char)
  | .header text => some text
  | _ => none

/-- A chunk is a heading if there is one at its first line, and takes no other. -/
theorem header?_chunkAt (afterBlank : Bool) (l : Line) (rest : List Line) :
    (chunkAt afterBlank l rest).1.header? = headingAt? afterBlank l rest ∧
      NoHeadings false (chunkAt afterBlank l rest).2 rest := by
  cases hhead : headingAt? afterBlank l rest with
  | some text =>
    have hchunk : chunkAt afterBlank l rest = (.header text, 0) := by
      unfold chunkAt
      rw [show (if afterBlank then headerText? l rest else none) = some text from hhead]
    rw [hchunk]
    exact ⟨rfl, trivial⟩
  | none =>
    rcases chunkAt_cases afterBlank l rest with ⟨text, rfl, htext, -⟩ | ⟨-, -, heq⟩ | ⟨-, -, heq⟩ |
      ⟨-, heq⟩
    · rw [show headingAt? true l rest = headerText? l rest from rfl, htext] at hhead
      cases hhead
    · rw [heq]
      exact ⟨rfl, noHeadings_runTail false rest⟩
    · rw [heq]
      exact ⟨rfl, noHeadings_runTail false rest⟩
    · rw [heq]
      exact ⟨rfl, noHeadings_paragraphTail rest⟩

/-- The header chunks are the headings, if none is among the lines that are passed over. -/
theorem filterMap_header?_chunksFrom : ∀ (afterBlank : Bool) (skip : ℕ) {ls : List Line},
    NoHeadings afterBlank skip ls →
      (chunksFrom afterBlank skip ls).filterMap Chunk.header? = headingsFrom afterBlank ls := by
  intro afterBlank skip ls
  induction ls generalizing afterBlank skip with
  | nil => intro _; cases skip <;> rfl
  | cons l ls ih =>
    intro h
    rw [headingsFrom]
    rcases skip with _ | skip
    · by_cases hl : isBlankLine l = true
      · have hnone : headingAt? afterBlank l ls = none := by
          unfold headingAt?
          rw [headerText?_of_isBlankLine hl, ite_self]
        rw [chunksFrom_of_blank _ hl, ih true 0 trivial, hnone, hl]
        rfl
      · have hl' : isBlankLine l = false := by simpa using hl
        obtain ⟨hchunk, hmore⟩ := header?_chunkAt afterBlank l ls
        rw [chunksFrom_of_text _ hl', ← hchunk, hl', ← ih false _ hmore, List.filterMap_cons]
        cases (chunkAt afterBlank l ls).1.header? <;> rfl
    · rw [h.1]
      exact ih (isBlankLine l) skip h.2

/-! ## Places of headings -/

theorem isHeading_cons_cons {k l : Line} {ls : List Line} {i : ℕ} :
    IsHeading (k :: l :: ls) (i + 1 + 1) ↔ IsHeading (l :: ls) (i + 1) := by
  simp [IsHeading, FollowsBlank, IsMarked, IsCapital]

theorem isHeading_nil_cons {ls : List Line} {i : ℕ} :
    IsHeading ([] :: ls) (i + 1) ↔ IsHeading ls i := by
  have hfollows : FollowsBlank ([] :: ls) (i + 1) ↔ FollowsBlank ls i := by
    cases i <;> simp [FollowsBlank, isBlankLine_nil]
  simp [IsHeading, hfollows, IsMarked, IsCapital]

theorem headingAt?_eq (k l : Line) (rest : List Line) :
    headingAt? (isBlankLine k) l rest =
      if IsHeading (k :: l :: rest) 1 then some (trim (headingText l)) else none := by
  have hfollows : FollowsBlank (k :: l :: rest) 1 ↔ isBlankLine k = true := by
    simp [FollowsBlank]
  have hlater : IsMarked (k :: l :: rest) 1 ∨ IsCapital (k :: l :: rest) 1 ↔
      IsMarked (l :: rest) 0 ∨ IsCapital (l :: rest) 0 := by
    simp [IsMarked, IsCapital]
  have htest : IsHeading (k :: l :: rest) 1 ↔
      isBlankLine k = true ∧ (IsMarked (l :: rest) 0 ∨ IsCapital (l :: rest) 0) :=
    and_congr hfollows hlater
  unfold headingAt?
  rw [headerText?_eq]
  simp only [htest, ite_and]

/-- The headings below a line are at the places that pass the test. -/
theorem headingsFrom_eq (k : Line) (ls : List Line) :
    headingsFrom (isBlankLine k) ls =
      ((List.range ls.length).filter fun i => IsHeading (k :: ls) (i + 1)).map fun i =>
        trim (headingText (ls.getD i [])) := by
  induction ls generalizing k with
  | nil => rfl
  | cons l ls ih =>
    rw [headingsFrom, headingAt?_eq, ih l, List.length_cons, List.range_succ_eq_map,
      List.filter_cons, List.filter_map]
    simp only [Function.comp_def, isHeading_cons_cons]
    by_cases h : IsHeading (k :: l :: ls) 1
    · simp [h]
    · simp [h]

/-! ## Documents -/

theorem filter_isHeader_chunkBlocks (level : ℕ) (sub : List Line → List (Block (List Char)))
    (c : Chunk) :
    (chunkBlocks level sub c).filter Block.isHeader =
      (c.header?.map fun text => Block.header level (collapseBlanks text)).toList := by
  cases c with
  | list run =>
    show (listBlock level sub run).filter Block.isHeader = []
    rw [List.filter_eq_nil_iff]
    intro b hb
    obtain ⟨-, rfl⟩ := mem_listBlock hb
    simp [Block.isHeader]
  | header _ | code _ | paragraph _ => rfl

theorem filter_isHeader_blocks (level : ℕ) (ls : List Line) :
    (blocks level ls).filter Block.isHeader =
      (headingsFrom true ls).map fun text => Block.header level (collapseBlanks text) := by
  rw [blocks_eq, List.filter_flatMap, ← filterMap_header?_chunksFrom true 0 trivial,
    List.map_filterMap, List.filterMap_eq_flatMap_toList]
  simp only [filter_isHeader_chunkBlocks, chunks]

theorem isHeader_map {α β : Type} (f : α → β) (b : Block α) : (b.map f).isHeader = b.isHeader := by
  cases b <;> rfl

/-- **Headings are exactly the lines that pass the test**, with their text on one line. -/
theorem headers_parse (scope : Scope) (text : String) :
    (parse scope text).filter Block.isHeader =
      ((List.range (body text).1.length).filter fun i => IsHeading (body text).1 i).map fun i =>
        .header scope.level (Inline.spans scope (body text).2
          (collapseBlanks (trim (headingText ((body text).1.getD i []))))) := by
  have hheadings := headingsFrom_eq [] (body text).1
  simp only [isHeading_nil_cons, isBlankLine_nil] at hheadings
  unfold parse parseLines
  rw [Block.mapAll_eq_map, List.filter_map]
  simp only [Function.comp_def, isHeader_map]
  rw [filter_isHeader_blocks, hheadings]
  simp [Block.map]

end Comment

end DocPages
