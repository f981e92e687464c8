import DocPages.Proofs.Text.SourceLayout
import DocPages.Text.Summary

/-!
# What a summary is

A summary is one sentence: a line that starts with text and ends with a period, in which each other period
before a space belongs to an initial (`IsSummary`). The summary of a doc comment is such a sentence if the
comment has any text, and a sentence is its own summary, so taking the summary again changes nothing
(`isSummary_summary_unless_blank`).

1. The sentence that is cut from a line goes on only after initials (`initialsOnly_sentenceAfter`), and a
   line that goes on only after initials is not cut (`sentenceAfter_eq_self`). Both are by induction on
   the line, for any characters read before it.
2. The first paragraph, put on one line, starts with text (`exists_summaryLine_eq_cons`).
3. A sentence has nothing to fold, to trim or to cut (`summaryChars_eq_self`).
-/

namespace DocPages.Text

/-- The text ends in an initial: a capital letter with no letter or digit before it. -/
def EndsInInitial (cs : List Char) : Prop :=
  ∃ front c, cs = front ++ [c] ∧ isUppercase c = true ∧
    ∀ d ∈ front.getLast?, isAlphanumeric d = false

/-- One sentence on one line. -/
structure IsSummary (cs : List Char) : Prop where
  oneLine : '\n' ∉ cs
  starts : ∃ c ∈ cs.head?, isBlank c = false
  ends : cs.getLast? = some '.'
  initials : ∀ before after, cs = before ++ '.' :: ' ' :: after → EndsInInitial before

/-! ## Where a sentence ends -/

theorem isInitial_iff {seen : List Char} : isInitial seen = true ↔ EndsInInitial seen.reverse := by
  constructor
  · intro h
    match seen, h with
    | [c], h => exact ⟨[], c, rfl, h, fun d hd => by cases hd⟩
    | c :: d :: rest, h =>
      rw [isInitial, Bool.and_eq_true, Bool.not_eq_true'] at h
      refine ⟨rest.reverse ++ [d], c, by simp, h.1, ?_⟩
      intro e he
      rw [List.getLast?_concat, Option.mem_some_iff] at he
      rw [← he]
      exact h.2
  · rintro ⟨front, c, hseen, hupper, hfront⟩
    obtain rfl : seen = c :: front.reverse := by
      rw [← List.reverse_reverse seen, hseen, List.reverse_concat]
    cases hback : front.reverse with
    | nil => exact hupper
    | cons d rest =>
      have hlast : front.getLast? = some d := by
        rw [← List.head?_reverse, hback, List.head?_cons]
      rw [isInitial, hupper, hfront d hlast]
      rfl

/-- A period before a space stands in `cs` after an initial only, where `seen` was read before, last
character first. -/
def InitialsOnly (seen cs : List Char) : Prop :=
  ∀ before after rest, cs = before ++ ' ' :: after → before.reverse ++ seen = '.' :: rest →
    isInitial rest = true

/-- From the start of a text, in the terms of `IsSummary`. -/
theorem initialsOnly_start_iff {cs : List Char} :
    InitialsOnly [] cs ↔
      ∀ before after, cs = before ++ '.' :: ' ' :: after → EndsInInitial before := by
  constructor
  · intro h before after hcs
    have hinitial := h (before ++ ['.']) after before.reverse (by simp [hcs]) (by simp)
    rwa [isInitial_iff, List.reverse_reverse] at hinitial
  · intro h before after rest hcs hseen
    rw [List.append_nil] at hseen
    obtain rfl : before = rest.reverse ++ ['.'] := by
      rw [← List.reverse_reverse before, hseen, List.reverse_cons]
    rw [isInitial_iff]
    exact h rest.reverse after (by simpa using hcs)

theorem initialsOnly_nil (seen : List Char) : InitialsOnly seen [] := by
  intro before after rest h
  simp at h

theorem initialsOnly_cons {seen cs : List Char} {c : Char} :
    InitialsOnly seen (c :: cs) ↔
      (c = ' ' → ∀ rest, seen = '.' :: rest → isInitial rest = true) ∧
        InitialsOnly (c :: seen) cs := by
  constructor
  · intro h
    refine ⟨?_, ?_⟩
    · rintro rfl rest hseen
      exact h [] cs rest rfl hseen
    · intro before after rest hcs hseen
      refine h (c :: before) after rest (by rw [hcs]; rfl) ?_
      rw [List.reverse_cons, List.append_assoc]
      exact hseen
  · rintro ⟨hspace, hrest⟩ before after rest hcs hseen
    cases before with
    | nil =>
      rw [List.nil_append, List.cons.injEq] at hcs
      exact hspace hcs.1 rest hseen
    | cons d before =>
      rw [List.cons_append, List.cons.injEq] at hcs
      obtain ⟨rfl, hcs⟩ := hcs
      rw [List.reverse_cons, List.append_assoc] at hseen
      exact hrest before after rest hcs hseen

/-- A period at the end is followed by no space. -/
theorem InitialsOnly.append_period {seen cs : List Char} (h : InitialsOnly seen cs) :
    InitialsOnly seen (cs ++ ['.']) := by
  induction cs generalizing seen with
  | nil => exact initialsOnly_cons.2 ⟨fun hspace => absurd hspace (by decide), initialsOnly_nil _⟩
  | cons c cs ih =>
    obtain ⟨hspace, hrest⟩ := initialsOnly_cons.1 h
    exact initialsOnly_cons.2 ⟨hspace, ih hrest⟩

theorem initialsOnly_sentenceAfter (seen cs : List Char) :
    InitialsOnly seen (sentenceAfter seen cs) := by
  fun_induction sentenceAfter seen cs with
  | case1 => exact initialsOnly_nil _
  | case2 cs before hinitial ih =>
    refine initialsOnly_cons.2 ⟨?_, ih⟩
    rintro - rest hseen
    cases hseen
    exact hinitial
  | case3 => exact initialsOnly_nil _
  | case4 seen c cs hother ih =>
    refine initialsOnly_cons.2 ⟨?_, ih⟩
    intro hspace rest hseen
    exact (hother rest hspace hseen).elim

theorem sentenceAfter_eq_self {seen cs : List Char} (h : InitialsOnly seen cs) :
    sentenceAfter seen cs = cs := by
  fun_induction sentenceAfter seen cs with
  | case1 => rfl
  | case2 cs before hinitial ih => rw [ih (initialsOnly_cons.1 h).2]
  | case3 cs before hinitial => exact absurd ((initialsOnly_cons.1 h).1 rfl before rfl) hinitial
  | case4 seen c cs hother ih => rw [ih (initialsOnly_cons.1 h).2]

theorem sentenceAfter_isPrefix (seen cs : List Char) : sentenceAfter seen cs <+: cs := by
  fun_induction sentenceAfter seen cs with
  | case1 => exact List.prefix_refl _
  | case2 cs before hinitial ih => exact List.cons_prefix_cons.2 ⟨rfl, ih⟩
  | case3 => exact List.nil_prefix
  | case4 seen c cs hother ih => exact List.cons_prefix_cons.2 ⟨rfl, ih⟩

theorem closeSentence_cases {cs : List Char} (hne : cs ≠ []) (hnul : '\x00' ∉ cs) :
    (closeSentence cs = cs ∧ cs.getLast? = some '.') ∨ closeSentence cs = cs ++ ['.'] := by
  obtain ⟨c, hc⟩ : ∃ c, cs.getLast? = some c := ⟨_, List.getLast?_eq_some_getLast hne⟩
  unfold closeSentence
  rw [hc]
  by_cases hperiod : c = '.'
  · left
    simp [hperiod]
  · right
    have hcode : c.toNat ≠ 0 := by
      intro hzero
      apply hnul
      rw [← Char.ofNat_toNat c, hzero] at hc
      exact List.mem_of_getLast? hc
    simp [hperiod, hcode]

/-! ## The line that a summary is cut from -/

/-- The first paragraph of a doc comment on one line. -/
def summaryLine (doc : List Char) : List Char :=
  joinWords ((lines (firstParagraph (trim (unixNewlines doc)))).map trim)

theorem summaryChars_eq (doc : List Char) :
    summaryChars doc = closeSentence (sentenceAfter [] (summaryLine doc)) := rfl

theorem firstParagraph_isPrefix (cs : List Char) : firstParagraph cs <+: cs := by
  fun_induction firstParagraph cs with
  | case1 => exact List.nil_prefix
  | case2 c cs _ ih => exact List.cons_prefix_cons.2 ⟨rfl, ih⟩
  | case3 => exact List.prefix_refl _

theorem firstParagraph_of_oneLine {cs : List Char} (h : '\n' ∉ cs) : firstParagraph cs = cs := by
  fun_induction firstParagraph cs with
  | case1 => exact absurd List.mem_cons_self h
  | case2 c cs _ ih => rw [ih fun hmem => h (List.mem_cons_of_mem c hmem)]
  | case3 => rfl

theorem mem_of_mem_summaryLine {c : Char} {doc : List Char} (h : c ∈ summaryLine doc) :
    c = ' ' ∨ (c ∈ doc ∧ c ≠ '\n') := by
  obtain rfl | ⟨piece, hpiece, hc⟩ := mem_intercalate h
  · exact Or.inl rfl
  · obtain ⟨l, hl, rfl⟩ := List.mem_map.1 hpiece
    have hcl := mem_of_mem_trim hc
    have hdoc := mem_of_mem_trim ((firstParagraph_isPrefix _).subset (mem_of_mem_lines hl hcl))
    refine Or.inr ⟨mem_of_mem_unixNewlines hdoc, ?_⟩
    rintro rfl
    exact newline_notMem_of_mem_lines hl hcl

/-- A first line that starts with text starts the summary. -/
theorem exists_joinWords_lines_cons {c : Char} (hc : isBlank c = false) (cs : List Char) :
    ∃ ds, joinWords ((lines (c :: cs)).map trim) = c :: ds := by
  have hne : c ≠ '\n' := by
    rintro rfl
    exact absurd hc (by decide)
  obtain ⟨first, rest, -, hlines⟩ := exists_lines_cons hne cs
  obtain ⟨ds, hds⟩ := exists_trim_cons hc first
  exact ⟨_, by rw [hlines, List.map_cons, hds, joinWords_cons, List.cons_append]⟩

theorem exists_summaryLine_eq_cons {doc : List Char} (h : isBlankLine doc = false) :
    ∃ c ds, summaryLine doc = c :: ds ∧ isBlank c = false := by
  rw [← isBlankLine_unixNewlines] at h
  obtain ⟨c, cs, htrim, hc⟩ := exists_trim_eq_cons h
  have hparagraph : firstParagraph (c :: cs) = c :: firstParagraph cs := by
    rw [firstParagraph]
    rintro ds rfl
    exact absurd hc (by decide)
  obtain ⟨ds, hds⟩ := exists_joinWords_lines_cons hc (firstParagraph cs)
  exact ⟨c, ds, by rw [summaryLine, htrim, hparagraph, hds], hc⟩

theorem summaryLine_of_isBlankLine {doc : List Char} (h : isBlankLine doc = true) :
    summaryLine doc = [] := by
  rw [← isBlankLine_unixNewlines, isBlankLine_iff_trimStart] at h
  rw [summaryLine, trim, h]
  rfl

/-! ## Summaries -/

theorem isSummary_summaryChars {doc : List Char} (hnul : '\x00' ∉ doc)
    (h : isBlankLine doc = false) : IsSummary (summaryChars doc) := by
  obtain ⟨c, ds, hline, hc⟩ := exists_summaryLine_eq_cons h
  have hspace : ¬ c = ' ' := by
    rintro rfl
    exact absurd hc (by decide)
  -- the first character is text, so it does not end the sentence
  obtain ⟨es, hsentence⟩ : ∃ es, sentenceAfter [] (summaryLine doc) = c :: es := by
    rw [hline]
    exact ⟨sentenceAfter [c] ds, by simp [sentenceAfter]⟩
  have hmem {d : Char} (hd : d ∈ c :: es) : d = ' ' ∨ (d ∈ doc ∧ d ≠ '\n') := by
    rw [← hsentence] at hd
    exact mem_of_mem_summaryLine ((sentenceAfter_isPrefix _ _).subset hd)
  have hfeed : '\n' ∉ c :: es := fun hd => by simpa using hmem hd
  have hclean : '\x00' ∉ c :: es := fun hd => by simpa [hnul] using hmem hd
  have hinitials : InitialsOnly [] (c :: es) := by
    rw [← hsentence]
    exact initialsOnly_sentenceAfter _ _
  rw [summaryChars_eq, hsentence]
  rcases closeSentence_cases (List.cons_ne_nil c es) hclean with ⟨hclose, hperiod⟩ | hclose
  · rw [hclose]
    exact ⟨hfeed, ⟨c, rfl, hc⟩, hperiod, initialsOnly_start_iff.1 hinitials⟩
  · rw [hclose]
    refine ⟨?_, ⟨c, rfl, hc⟩, List.getLast?_concat,
      initialsOnly_start_iff.1 hinitials.append_period⟩
    simpa using hfeed

/-- A sentence is its own summary. -/
theorem IsSummary.summaryChars_eq_self {cs : List Char} (h : IsSummary cs) : summaryChars cs = cs := by
  obtain ⟨c, hc, htext⟩ := h.starts
  have htrim : trim cs = cs := by
    apply trim_eq_self
    · intro d hd
      rwa [Option.mem_unique hd hc]
    · intro d hd
      rw [Option.mem_unique hd h.ends]
      decide
  have hline : summaryLine cs = cs := by
    rw [summaryLine, unixNewlines_of_oneLine h.oneLine, htrim, firstParagraph_of_oneLine h.oneLine,
      lines_of_oneLine h.oneLine, List.map_singleton, htrim, joinWords, List.intercalate_singleton]
  have hinitials : InitialsOnly [] cs := initialsOnly_start_iff.2 h.initials
  rw [summaryChars_eq, hline, sentenceAfter_eq_self hinitials, closeSentence, h.ends]
  rfl

/-- **Summaries are one sentence and stable.** Only a doc comment of white space has none. -/
theorem isSummary_summary_unless_blank {doc : String} (hnul : '\x00' ∉ doc.toList) :
    (summary doc = "" ↔ isBlankLine doc.toList = true) ∧
    (isBlankLine doc.toList = false →
      IsSummary (summary doc).toList ∧ summary (summary doc) = summary doc) := by
  have htext (h : isBlankLine doc.toList = false) : IsSummary (summary doc).toList := by
    rw [summary, toList_onChars]
    exact isSummary_summaryChars hnul h
  refine ⟨⟨fun hempty => ?_, fun hblank => ?_⟩, fun h => ⟨htext h, ?_⟩⟩
  · by_contra hblank
    obtain ⟨c, hc, -⟩ := (htext (by simpa using hblank)).starts
    rw [hempty] at hc
    cases hc
  · rw [summary, onChars, summaryChars_eq, summaryLine_of_isBlankLine hblank]
    rfl
  · have hself := (htext h).summaryChars_eq_self
    conv_lhs => rw [summary, onChars, hself, String.ofList_toList]

/-- Initials before spaces, on lines that are folded, and a paragraph that is not read. -/
def authorsDoc : String :=
  "\r\n Written by J. R. Doe\r\n\t and Ä. \r\nv1.2 B\n\nMore."

theorem isSummary_summary_unless_blank_authors :
    '\x00' ∉ authorsDoc.toList ∧ isBlankLine authorsDoc.toList = false ∧
      summary authorsDoc = "Written by J. R. Doe and Ä. v1.2 B." ∧
      IsSummary (summary authorsDoc).toList ∧ summary (summary authorsDoc) = summary authorsDoc := by
  have hnul : '\x00' ∉ authorsDoc.toList := by decide
  have htext : isBlankLine authorsDoc.toList = false := by decide
  exact ⟨hnul, htext, by decide +kernel, (isSummary_summary_unless_blank hnul).2 htext⟩

-- a NUL character counts as no character, so that no period follows it
example : summary "a\x00" = "a\x00" := by decide +kernel

end DocPages.Text
