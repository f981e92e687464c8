import DocPages.Proofs.Text.Lines
import DocPages.Text.SourceLayout

/-!
# Laws of source layout

Widening tabs and trimming lines leave nothing of a line just if it is white space. So source is laid out
unless it is white space only (`layoutSource?_eq_none`).
-/

namespace DocPages.Text

theorem isBlankLine_unixNewlines (cs : List Char) :
    isBlankLine (unixNewlines cs) = isBlankLine cs := by
  unfold isBlankLine
  fun_induction unixNewlines cs with
  | case1 cs ih => simp only [List.all_cons, ih, isBlank_return, Bool.true_and]
  | case2 c cs _ ih => rw [List.all_cons, List.all_cons, ih]
  | case3 => rfl

theorem isBlankLine_expandTabs (col : ℕ) (cs : List Char) :
    isBlankLine (expandTabs col cs) = isBlankLine cs := by
  have htab : isBlank '\t' = true := by decide
  unfold isBlankLine
  induction cs generalizing col with
  | nil => rfl
  | cons c cs ih =>
    unfold expandTabs
    split_ifs with hc
    · simp [ih, hc, htab, isBlank_space]
    · rw [List.all_cons, List.all_cons, ih]

theorem isBlankLine_iff_lines {cs : List Char} :
    isBlankLine cs = true ↔ ∀ l ∈ lines cs, isBlankLine l = true := by
  simp only [isBlankLine_iff]
  constructor
  · intro h l hl c hc
    exact h c (mem_of_mem_lines hl hc)
  · intro h c hc
    have hmem : c = '\n' ∨ ∃ l ∈ lines cs, c ∈ l := exists_mem_splitBy hc
    obtain rfl | ⟨l, hl, hcl⟩ := hmem
    · exact isBlank_newline
    · exact h l hl c hcl

theorem forall_mem_dropWhile {α : Type} {p : α → Bool} {xs : List α} :
    (∀ x ∈ xs.dropWhile p, p x = true) ↔ ∀ x ∈ xs, p x = true := by
  constructor
  · intro h x hx
    rw [← List.takeWhile_append_dropWhile (p := p) (l := xs), List.mem_append] at hx
    rcases hx with hx | hx
    · exact List.mem_takeWhile_imp hx
    · exact h x hx
  · exact fun h x hx => h x ((List.dropWhile_sublist p).subset hx)

/-- Only source that is white space has no lines to show. -/
theorem layoutLines_eq_nil {cs : List Char} : layoutLines cs = [] ↔ isBlankLine cs = true := by
  have hline (l : List Char) : (trimEnd (expandTabs 0 l)).isEmpty = true ↔ isBlankLine l = true := by
    rw [List.isEmpty_iff, trimEnd_eq_nil, isBlankLine_expandTabs]
  rw [← isBlankLine_unixNewlines, isBlankLine_iff_lines, layoutLines, takeToLast_eq_rdropWhile,
    List.rdropWhile_eq_nil_iff]
  simp only [Bool.not_not, forall_mem_dropWhile, List.forall_mem_map, hline]

theorem layoutSource?_eq_none {source : String} :
    layoutSource? source = none ↔ isBlankLine source.toList = true := by
  rw [← layoutLines_eq_nil]
  unfold layoutSource?
  split
  · rename_i hnil
    simp [hnil]
  · rename_i hne
    simpa using hne

end DocPages.Text
