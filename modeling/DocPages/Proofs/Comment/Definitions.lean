import DocPages.Comment.Parse
import DocPages.Proofs.Text.Lines

/-!
# Texts without link definitions

A text in which no paragraph is made of link definitions keeps all of its lines, and its blocks are read
with no labels defined (`parse_of_noDefinitions`).
-/

namespace DocPages.Comment

open Text

/-- The lines of a text, whichever way they end. -/
def textLines (text : String) : List Line :=
  lines (unixNewlines text.toList)

theorem textLines_joinLines {ls : List Line} (hne : ls ≠ []) (h : ∀ l ∈ ls, '\n' ∉ l ∧ '\r' ∉ l) :
    textLines (String.ofList (joinLines ls)) = ls := by
  have hreturn : '\r' ∉ joinLines ls := by
    intro hmem
    obtain heq | ⟨l, hl, hmem⟩ := mem_joinLines hmem
    · exact absurd heq (by decide)
    · exact (h l hl).2 hmem
  unfold textLines
  rw [String.toList_ofList, unixNewlines_of_not_mem hreturn]
  exact lines_joinLines hne fun l hl => (h l hl).1

/-- None of the runs of lines between blank lines is made of link definitions. -/
def NoDefinitions (ls : List Line) : Prop :=
  ∀ paragraph ∈ ls.splitOnP isBlankLine, definitions? paragraph = none

instance (ls : List Line) : Decidable (NoDefinitions ls) := by
  unfold NoDefinitions; infer_instance

theorem noDefinitions_nil : NoDefinitions [] := by
  intro p hp
  rw [List.splitOnP_nil, List.mem_singleton] at hp
  rw [hp]
  rfl

/-- Definitions need a line that is neither blank nor indented and defines a label. -/
theorem noDefinitions_of_forall {ls : List Line}
    (h : ∀ l ∈ ls, isBlankLine l = false → isIndented l = true ∨ definition? l = none) :
    NoDefinitions ls := by
  intro paragraph hparagraph
  rcases paragraph with _ | ⟨l, more⟩
  · rfl
  · obtain ⟨hl, hblank⟩ := of_mem_splitOnP hparagraph l List.mem_cons_self
    unfold definitions?
    rcases h l hl hblank with hindent | hnone
    · exact if_pos hindent
    · rw [List.mapM_cons, hnone]
      exact ite_self _

theorem noDefinitions_append {ks ls : List Line} {l : Line} (hl : isBlankLine l = true) :
    NoDefinitions (ks ++ l :: ls) ↔ NoDefinitions ks ∧ NoDefinitions ls := by
  unfold NoDefinitions
  rw [List.splitOnP_append_cons ks ls hl, List.forall_mem_append]

theorem noDefinitions_cons_blank {ls : List Line} {l : Line} (hl : isBlankLine l = true) :
    NoDefinitions (l :: ls) ↔ NoDefinitions ls := by
  have h : NoDefinitions ([] ++ l :: ls) ↔ _ := noDefinitions_append hl
  exact h.trans (and_iff_right noDefinitions_nil)

theorem noDefinitions_of_not_blank {ls : List Line} (h : ∀ l ∈ ls, isBlankLine l = false) :
    NoDefinitions ls ↔ definitions? ls = none := by
  unfold NoDefinitions
  rw [List.splitOnP_eq_singleton h, List.forall_mem_singleton]

/-- The first paragraph, and what follows it. -/
theorem noDefinitions_takeWhile {ls : List Line} (h : NoDefinitions ls) :
    definitions? (ls.takeWhile (!isBlankLine ·)) = none ∧
      NoDefinitions (ls.dropWhile (!isBlankLine ·)) := by
  have hfront : ∀ l ∈ ls.takeWhile (!isBlankLine ·), isBlankLine l = false := by
    intro l hl
    simpa using List.mem_takeWhile_imp hl
  rw [← noDefinitions_of_not_blank hfront]
  have hall := List.takeWhile_append_dropWhile (p := (!isBlankLine ·)) (l := ls)
  rcases hrest : ls.dropWhile (!isBlankLine ·) with _ | ⟨l, rest⟩
  · rw [hrest, List.append_nil] at hall
    rw [hall]
    exact ⟨h, noDefinitions_nil⟩
  · have hl : isBlankLine l = true := by
      have hhead := List.head_dropWhile_not (!isBlankLine ·) (l := ls) (by simp [hrest])
      simpa [hrest] using hhead
    rw [hrest] at hall
    rw [← hall, noDefinitions_append hl] at h
    exact ⟨h.1, (noDefinitions_cons_blank hl).2 h.2⟩

theorem extractFrom_of_noDefinitions : ∀ (skip : ℕ) {ls : List Line},
    NoDefinitions (ls.drop skip) → extractFrom skip ls = (ls.drop skip, []) := by
  intro skip ls
  induction ls generalizing skip with
  | nil => intro _; cases skip <;> rfl
  | cons l ls ih =>
    intro h
    rcases skip with _ | skip
    · rw [List.drop_zero] at h ⊢
      unfold extractFrom
      by_cases hl : isBlankLine l = true
      · rw [if_pos hl, ih 0 ((noDefinitions_cons_blank hl).1 h)]
        rfl
      · obtain ⟨hfirst, hlater⟩ := noDefinitions_takeWhile h
        rw [List.takeWhile_cons_of_pos (by simpa using hl)] at hfirst
        rw [List.dropWhile_cons_of_pos (by simpa using hl), ← drop_length_takeWhile] at hlater
        simp only [if_neg hl, ih _ hlater, hfirst, drop_length_takeWhile, List.cons_append,
          List.takeWhile_append_dropWhile]
    · exact ih skip h

theorem extractDefinitions_of_noDefinitions {ls : List Line} (h : NoDefinitions ls) :
    extractDefinitions ls = (ls, []) :=
  extractFrom_of_noDefinitions 0 h

/-- The blocks of a text without link definitions. -/
theorem parse_of_noDefinitions (scope : Scope) {text : String} (h : NoDefinitions (textLines text)) :
    parse scope text =
      Block.mapAll (Inline.spans scope []) (blocks scope.level (textLines text)) := by
  unfold parse parseLines body
  rw [show lines (unixNewlines text.toList) = textLines text from rfl,
    extractDefinitions_of_noDefinitions h]

end DocPages.Comment
