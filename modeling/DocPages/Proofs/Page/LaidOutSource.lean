import DocPages.Page.Entity
import DocPages.Proofs.Text.SourceLayout
import Mathlib.Data.List.Forall2

/-!
# Source as it is shown

Each line of source is shown with its tabs widened to stops of four columns and without white space at its
end, and empty lines at both ends of the source are dropped (`layoutSource_isLaidOut_unless_blank`).

1. Widening a line by columns gives the one text in which each tab is one to four spaces that end at a stop
   (`widens_iff`).
2. The lines that are kept stand between empty lines (`exists_shown_eq`), and are laid out
   (`isLaidOut_joinLines`).
3. In a laid out text there is nothing to widen, to trim or to drop (`IsLaidOut.layoutLines_eq`), so
   laying it out again changes nothing.
-/

namespace DocPages.Text

/-! ## Tab stops -/

/-- After the part of a line that is shown as `before`, the rest of the line is shown as `wide`: each tab as
the one to four spaces that bring the column to the next multiple of four, and other characters as they
are. -/
inductive Widens : (before line wide : List Char) → Prop
  | nil (before : List Char) : Widens before [] []
  | char {before line wide : List Char} {c : Char} (hc : c ≠ '\t')
      (h : Widens (before ++ [c]) line wide) : Widens before (c :: line) (c :: wide)
  | tab {before line wide : List Char} {n : ℕ} (hpos : 1 ≤ n) (hle : n ≤ 4)
      (hstop : 4 ∣ before.length + n) (h : Widens (before ++ List.replicate n ' ') line wide) :
      Widens before ('\t' :: line) (List.replicate n ' ' ++ wide)

/-- How a line is shown: widened, without white space at its end. -/
def ShownAs (line shown : List Char) : Prop :=
  ∃ wide, Widens [] line wide ∧ shown = trimEnd wide

/-- Between two stops there is one number of spaces that reaches the next. -/
theorem eq_pad_of_stop {col n : ℕ} (hpos : 1 ≤ n) (hle : n ≤ 4) (hstop : 4 ∣ col + n) :
    n = tabWidth - col % tabWidth := by
  unfold tabWidth
  omega

theorem widens_iff {before line wide : List Char} :
    Widens before line wide ↔ wide = expandTabs before.length line := by
  constructor
  · intro h
    induction h with
    | nil before => rfl
    | @char before line wide c hc h ih =>
      rw [expandTabs, if_neg hc, ih, List.length_append, List.length_singleton]
    | @tab before line wide n hpos hle hstop h ih =>
      rw [expandTabs, if_pos rfl, ih, ← eq_pad_of_stop hpos hle hstop, List.length_append,
        List.length_replicate]
  · rintro rfl
    induction line generalizing before with
    | nil => exact .nil before
    | cons c line ih =>
      unfold expandTabs
      split_ifs with hc
      · have hmod : before.length % tabWidth < tabWidth := Nat.mod_lt _ (by decide)
        subst hc
        refine .tab ?_ ?_ ?_ ?_
        · omega
        · exact Nat.sub_le _ _
        · unfold tabWidth
          omega
        · simpa using @ih (before ++ List.replicate (tabWidth - before.length % tabWidth) ' ')
      · exact .char hc (by simpa using @ih (before ++ [c]))

theorem tab_notMem_expandTabs (col : ℕ) (cs : List Char) : '\t' ∉ expandTabs col cs := by
  induction cs generalizing col with
  | nil => exact List.not_mem_nil
  | cons c cs ih =>
    unfold expandTabs
    split_ifs with hc
    · simp [ih]
    · simp [ih, Ne.symm hc]

theorem expandTabs_of_notMem {cs : List Char} (h : '\t' ∉ cs) (col : ℕ) : expandTabs col cs = cs := by
  induction cs generalizing col with
  | nil => rfl
  | cons c cs ih =>
    rw [List.mem_cons, not_or] at h
    rw [expandTabs, if_neg (Ne.symm h.1), ih h.2]

theorem of_mem_expandTabs {c : Char} {col : ℕ} {cs : List Char} (h : c ∈ expandTabs col cs) :
    c = ' ' ∨ c ∈ cs := by
  induction cs generalizing col with
  | nil => cases h
  | cons d cs ih =>
    unfold expandTabs at h
    split_ifs at h
    · rcases List.mem_append.1 h with h | h
      · exact Or.inl (List.eq_of_mem_replicate h)
      · exact (ih h).imp_right (List.mem_cons_of_mem d)
    · rcases List.mem_cons.1 h with rfl | h
      · exact Or.inr List.mem_cons_self
      · exact (ih h).imp_right (List.mem_cons_of_mem d)

/-! ## Laid out text -/

/-- Text as source is shown. -/
structure IsLaidOut (cs : List Char) : Prop where
  noTabs : '\t' ∉ cs
  trimmed : ∀ l ∈ lines cs, ∀ c ∈ l.getLast?, isBlank c = false
  first : ∀ l ∈ (lines cs).head?, l ≠ []
  last : ∀ l ∈ (lines cs).getLast?, l ≠ []

/-- One line as it is shown. -/
def showLine (l : List Char) : List Char :=
  trimEnd (expandTabs 0 l)

theorem shownAs_iff {line shown : List Char} : ShownAs line shown ↔ shown = showLine line := by
  unfold ShownAs showLine
  constructor
  · rintro ⟨wide, hwide, rfl⟩
    rw [widens_iff.1 hwide]
    rfl
  · rintro rfl
    exact ⟨_, widens_iff.2 rfl, rfl⟩

theorem getLast?_showLine {l : List Char} {c : Char} (h : c ∈ (showLine l).getLast?) :
    isBlank c = false :=
  getLast?_trimEnd h

theorem mem_showLine {c : Char} {l : List Char} (h : c ∈ showLine l) : c = ' ' ∨ c ∈ l :=
  of_mem_expandTabs ((List.rdropWhile_prefix isBlank _).subset h)

theorem tab_notMem_showLine (l : List Char) : '\t' ∉ showLine l :=
  fun h => tab_notMem_expandTabs 0 l ((List.rdropWhile_prefix isBlank _).subset h)

theorem layoutLines_eq (cs : List Char) : layoutLines cs =
    takeToLast (!·.isEmpty) (((lines (unixNewlines cs)).map showLine).dropWhile (·.isEmpty)) := rfl

/-- The lines that are kept stand between empty ones. -/
theorem exists_shown_eq (cs : List Char) : ∃ above below, (∀ l ∈ above ++ below, l = []) ∧
    (lines (unixNewlines cs)).map showLine = above ++ layoutLines cs ++ below := by
  set shown := (lines (unixNewlines cs)).map showLine with hshown
  obtain ⟨below, hkept, hbelow⟩ := exists_eq_takeToLast_append (!·.isEmpty) (shown.dropWhile (·.isEmpty))
  rw [hshown, ← layoutLines_eq, ← hshown] at hkept
  refine ⟨shown.takeWhile (·.isEmpty), below, ?_, ?_⟩
  · intro l hl
    rcases List.mem_append.1 hl with hl | hl
    · simpa using List.mem_takeWhile_imp hl
    · simpa using hbelow l hl
  · rw [List.append_assoc, ← hkept, List.takeWhile_append_dropWhile]

theorem exists_eq_showLine {cs l : List Char} (h : l ∈ layoutLines cs) :
    ∃ line ∈ lines (unixNewlines cs), l = showLine line := by
  obtain ⟨above, below, -, hshown⟩ := exists_shown_eq cs
  have hmem : l ∈ (lines (unixNewlines cs)).map showLine := by
    rw [hshown]
    simp [h]
  obtain ⟨line, hline, rfl⟩ := List.mem_map.1 hmem
  exact ⟨line, hline, rfl⟩

theorem newline_notMem_of_mem_layoutLines {cs l : List Char} (h : l ∈ layoutLines cs) : '\n' ∉ l := by
  obtain ⟨line, hline, rfl⟩ := exists_eq_showLine h
  intro hmem
  rcases mem_showLine hmem with hspace | hmem
  · exact absurd hspace (by decide)
  · exact newline_notMem_of_mem_lines hline hmem

theorem isLaidOut_joinLines {cs : List Char} (hne : layoutLines cs ≠ []) :
    IsLaidOut (joinLines (layoutLines cs)) := by
  have hlines : lines (joinLines (layoutLines cs)) = layoutLines cs :=
    lines_joinLines hne fun l hl => newline_notMem_of_mem_layoutLines hl
  refine ⟨?_, ?_, ?_, ?_⟩
  · intro htab
    rcases mem_joinLines htab with hfeed | ⟨l, hl, hmem⟩
    · exact absurd hfeed (by decide)
    · obtain ⟨line, -, rfl⟩ := exists_eq_showLine hl
      exact tab_notMem_showLine line hmem
  · rw [hlines]
    intro l hl c hc
    obtain ⟨line, -, rfl⟩ := exists_eq_showLine hl
    exact getLast?_showLine hc
  · rw [hlines]
    intro l hl hempty
    obtain ⟨rest, hkept⟩ := List.head?_eq_some_iff.1 hl
    obtain ⟨below, hshown⟩ := takeToLast_isPrefix (fun l : List Char => !l.isEmpty)
      (((lines (unixNewlines cs)).map showLine).dropWhile (·.isEmpty))
    have hhead := List.head?_dropWhile_not (·.isEmpty) ((lines (unixNewlines cs)).map showLine)
    rw [← hshown, ← layoutLines_eq, hkept] at hhead
    simp [hempty] at hhead
  · rw [hlines]
    intro l hl hempty
    have hcounts := getLast?_takeToLast hl
    simp [hempty] at hcounts

/-! ## Laying out again -/

theorem showLine_eq_self {l : List Char} (htabs : '\t' ∉ l)
    (hend : ∀ c ∈ l.getLast?, isBlank c = false) : showLine l = l := by
  rw [showLine, expandTabs_of_notMem htabs]
  apply List.rdropWhile_eq_self_iff.2
  intro hne
  simp [hend _ (List.getLast?_eq_some_getLast hne)]

namespace IsLaidOut

variable {cs : List Char} (h : IsLaidOut cs)
include h

theorem unixNewlines_eq_self : unixNewlines cs = cs := by
  apply unixNewlines_of_lines
  intro l hl hreturn
  exact absurd (h.trimmed l hl '\r' hreturn) (by decide)

theorem map_showLine_eq_self : (lines cs).map showLine = lines cs := by
  refine (List.map_congr_left fun l hl => showLine_eq_self ?_ (h.trimmed l hl)).trans (List.map_id _)
  intro htab
  exact h.noTabs (mem_of_mem_lines hl htab)

theorem layoutLines_eq : layoutLines cs = lines cs := by
  obtain ⟨first, rest, hlines⟩ := List.exists_cons_of_ne_nil (splitBy_ne_nil (· == '\n') cs)
  have hfirst : (lines cs).dropWhile (·.isEmpty) = lines cs := by
    have hne := h.first first (by rw [lines, hlines]; rfl)
    rw [lines, hlines]
    exact List.dropWhile_cons_of_neg (by simpa using hne)
  rw [Text.layoutLines_eq, h.unixNewlines_eq_self, h.map_showLine_eq_self, hfirst]
  apply List.rdropWhile_eq_self_iff.2
  intro hne
  simpa using h.last _ (List.getLast?_eq_some_getLast hne)

end IsLaidOut

theorem layoutSource?_of_isLaidOut {source : String} (h : IsLaidOut source.toList) :
    layoutSource? source = some source := by
  have hne : lines source.toList ≠ [] := splitBy_ne_nil _ _
  unfold layoutSource?
  rw [h.layoutLines_eq]
  split
  · rename_i hnil
    exact absurd hnil hne
  · rw [joinLines_lines, String.ofList_toList]

theorem layoutSource?_eq_some {source out : String} (h : layoutSource? source = some out) :
    layoutLines source.toList ≠ [] ∧ out.toList = joinLines (layoutLines source.toList) := by
  unfold layoutSource? at h
  split at h
  · cases h
  · rename_i hne
    exact ⟨hne, by rw [← Option.some_inj.1 h, String.toList_ofList]⟩

end DocPages.Text

namespace DocPages

open Text

/-- **Laying out source.** It fails for source of white space only. Otherwise the lines are shown one by
one, with empty lines at the ends dropped, and laying out the result again changes nothing. -/
theorem layoutSource_isLaidOut_unless_blank (kind : SourceKind) (source : String) :
    (layoutSource kind source = .error ⟨kind⟩ ↔ isBlankLine source.toList = true) ∧
    (isBlankLine source.toList = false → ∃ out, layoutSource kind source = .ok out ∧
      IsLaidOut out.toList ∧ layoutSource kind out = .ok out ∧
      ∃ above below, (∀ l ∈ above ++ below, l = []) ∧
        List.Forall₂ ShownAs (lines (unixNewlines source.toList))
          (above ++ lines out.toList ++ below)) := by
  cases hlayout : layoutSource? source with
  | none =>
    have hblank := layoutSource?_eq_none.1 hlayout
    have herror : layoutSource kind source = .error ⟨kind⟩ := by rw [layoutSource, hlayout]
    exact ⟨iff_of_true herror hblank, fun htext => by simp [hblank] at htext⟩
  | some out =>
    have hok : layoutSource kind source = .ok out := by rw [layoutSource, hlayout]
    have htext : ¬ isBlankLine source.toList = true := by
      rw [← layoutSource?_eq_none, hlayout]
      exact nofun
    obtain ⟨hne, hout⟩ := layoutSource?_eq_some hlayout
    have hlaid : IsLaidOut out.toList := hout ▸ isLaidOut_joinLines hne
    have hlines : lines out.toList = layoutLines source.toList := by
      rw [hout, lines_joinLines hne fun l hl => newline_notMem_of_mem_layoutLines hl]
    obtain ⟨above, below, hempty, hshown⟩ := exists_shown_eq source.toList
    refine ⟨iff_of_false (by rw [hok]; exact nofun) htext,
      fun _ => ⟨out, hok, hlaid, ?_, above, below, hempty, ?_⟩⟩
    · rw [layoutSource, layoutSource?_of_isLaidOut hlaid]
    · rw [hlines, ← hshown, List.forall₂_map_right_iff]
      exact List.forall₂_same.2 fun l _ => shownAs_iff.2 rfl

/-- Tabs after text and after one another, a form feed at the end of a line, and lone carriage returns. -/
def tabbedSource : String :=
  "\n \t\r\nfunc F(\r\r\n\ta\t\tint,\x0c\n\n  é\tb\rc \t\n\t"

theorem layoutSource_isLaidOut_unless_blank_tabbed :
    isBlankLine tabbedSource.toList = false ∧
      layoutSource .signature tabbedSource = .ok "func F(\n    a       int,\n\n  é b\rc" ∧
      ∃ out, layoutSource .signature tabbedSource = .ok out ∧
        IsLaidOut out.toList ∧ layoutSource .signature out = .ok out ∧
        ∃ above below, (∀ l ∈ above ++ below, l = []) ∧
          List.Forall₂ ShownAs (lines (unixNewlines tabbedSource.toList))
            (above ++ lines out.toList ++ below) := by
  have htext : isBlankLine tabbedSource.toList = false := by decide
  exact ⟨htext, by decide +kernel, (layoutSource_isLaidOut_unless_blank .signature tabbedSource).2 htext⟩

end DocPages
