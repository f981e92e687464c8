import DocPages.Dialect.Basic
import DocPages.Proofs.Comment.Headings
import DocPages.Proofs.Comment.ParagraphBreak
import DocPages.Proofs.Comment.WellFormed

/-!
# Code written with tabs

Plain Markdown writes code as lines that start with a tab, and comments read indented lines as code. Code
that comes from a comment is read back from what is written for it (`parse_codeBlock_plain`). The two
halves meet at `CodeLines`, the form of the lines of a code block.

1. Lines of this form with a tab before each of them are one run, which is no list
   (`chunks_tabbed`) and loses exactly the tabs (`dedent_tabbed`). So they are read as one code block
   (`parse_indentedCode`).
2. The code blocks of a comment have lines of this form, at any depth, and are made of characters of the
   comment (`mem_of_mem_code`), so no carriage return turns up in them.
-/

namespace DocPages.Comment

open Text

/-- A line with a tab before it. -/
def tabbed (l : Line) : Line :=
  '\t' :: l

section Tabbed

variable (l : Line)

theorem isIndented_tabbed : isIndented (tabbed l) = true :=
  rfl

theorem isBlankLine_tabbed : isBlankLine (tabbed l) = isBlankLine l := by
  have htab : isBlank '\t' = true := by decide
  simp [isBlankLine, tabbed, htab]

theorem trimStart_tabbed : trimStart (tabbed l) = trimStart l :=
  List.dropWhile_cons_of_pos (by decide)

theorem indentation_tabbed : indentation (tabbed l) = indentation l + 1 := by
  unfold indentation tabbed
  rw [List.takeWhile_cons_of_pos (by decide), List.length_cons]

theorem stripIndent_tabbed : stripIndent 1 (tabbed l) = l := by
  have htab : isBlank '\t' = true := by decide
  rw [tabbed, stripIndent, if_pos htab]
  cases l <;> rfl

end Tabbed

/-! ## Lines of code as a run -/

section CodeLines

variable {ls : List Line} (h : CodeLines ls)

include h

theorem commonIndent_tabbed : commonIndent (ls.map tabbed) = 1 := by
  apply commonIndent_eq
  · intro k hk _
    obtain ⟨l, -, rfl⟩ := List.mem_map.1 hk
    rw [indentation_tabbed]
    omega
  · obtain ⟨l, hl, htext, hflush⟩ := h.flush
    exact ⟨tabbed l, List.mem_map_of_mem hl, by rw [isBlankLine_tabbed, htext],
      by rw [indentation_tabbed, hflush]⟩

/-- The common indentation of the written lines is the tab. -/
theorem dedent_tabbed : dedent (ls.map tabbed) = ls := by
  unfold dedent
  rw [commonIndent_tabbed h, List.map_map]
  conv_rhs => rw [← List.map_id ls]
  apply List.map_congr_left
  intro l hl
  simp only [Function.comp_apply, isBlankLine_tabbed, stripIndent_tabbed, id_eq]
  split_ifs with hblank
  · exact (h.blank l hl hblank).symm
  · rfl

/-- The written lines are one code chunk. -/
theorem chunks_tabbed : chunks (ls.map tabbed) = [.code (ls.map tabbed)] := by
  obtain ⟨l, hhead, htext, hmarker⟩ := h.first
  obtain ⟨rest, rfl⟩ : ∃ rest, ls = l :: rest := List.head?_eq_some_iff.1 hhead
  have hrun : runTail (rest.map tabbed) = rest.map tabbed := by
    apply runTail_eq_self
    · intro k hk _
      obtain ⟨m, -, rfl⟩ := List.mem_map.1 hk
      exact isIndented_tabbed m
    · intro k hk
      rw [List.getLast?_map] at hk
      obtain ⟨m, hm, rfl⟩ := Option.map_eq_some_iff.1 hk
      obtain ⟨last, hlast, hlasttext⟩ := h.last
      rw [List.getLast?_cons, hm] at hlast
      cases hlast
      rw [isBlankLine_tabbed]
      exact hlasttext
  have hchunk : chunkAt true (tabbed l) (rest.map tabbed) =
      (.code ((l :: rest).map tabbed), (rest.map tabbed).length) := by
    rcases chunkAt_cases true (tabbed l) (rest.map tabbed) with ⟨text, -, hheader, -⟩ |
      ⟨-, hlist, -⟩ | ⟨-, -, heq⟩ | ⟨hindent, -⟩
    · rw [headerText?_of_isIndented (isIndented_tabbed l)] at hheader
      cases hheader
    · rw [trimStart_tabbed, hmarker] at hlist
      cases hlist
    · rw [heq, hrun]
      rfl
    · cases hindent
  rw [List.map_cons, chunks, chunksFrom_of_text _ (by rw [isBlankLine_tabbed, htext]), hchunk,
    chunksFrom_length]
  rfl

theorem blocks_tabbed (level : ℕ) :
    blocks level (ls.map tabbed) = [.code level (String.ofList (joinLines ls))] := by
  rw [blocks_eq, chunks_tabbed h, List.flatMap_singleton, chunkBlocks, codeText, dedent_tabbed h]

end CodeLines

/-! ## Reading what is written -/

theorem indentedCode_eq (code : String) :
    Dialect.indentedCode code =
      String.ofList (joinLines ((lines code.toList).map tabbed ++ [] :: [[]])) := by
  have hne : (lines code.toList).map tabbed ≠ [] := by
    simp [lines, splitBy_ne_nil]
  rw [joinLines, intercalate_append_cons hne, List.append_assoc, String.ofList_append]
  rfl

theorem textLines_indentedCode {code : String} (hreturn : '\r' ∉ code.toList) :
    textLines (Dialect.indentedCode code) = (lines code.toList).map tabbed ++ [] :: [[]] := by
  rw [indentedCode_eq]
  apply textLines_joinLines (by simp)
  intro l hl
  rcases List.mem_append.1 hl with hl | hl
  · obtain ⟨k, hk, rfl⟩ := List.mem_map.1 hl
    simp only [tabbed, List.mem_cons, Char.reduceEq, false_or]
    exact ⟨newline_notMem_of_mem_lines hk, fun hmem => hreturn (mem_of_mem_lines hk hmem)⟩
  · simp_all

theorem endsPlain_tabbed (ls : List Line) : EndsPlain (ls.map tabbed) := by
  intro l hl
  obtain ⟨k, -, rfl⟩ := List.mem_map.1 (List.mem_of_mem_filter (List.mem_of_getLast? hl))
  exact Or.inl (show isUppercase '\t' = false by decide)

/-- Lines of code are read back from what is written for them. -/
theorem parse_indentedCode (scope : Scope) {code : String} (hreturn : '\r' ∉ code.toList)
    (hcode : CodeLines (lines code.toList)) :
    parse scope (Dialect.indentedCode code) = [.code scope.level code] := by
  have hlines := textLines_indentedCode hreturn
  have hdefs : NoDefinitions (textLines (Dialect.indentedCode code)) := by
    apply noDefinitions_of_forall
    intro l hl htext
    rw [hlines] at hl
    rcases List.mem_append.1 hl with hl | hl
    · obtain ⟨k, -, rfl⟩ := List.mem_map.1 hl
      exact Or.inl (isIndented_tabbed k)
    · obtain rfl : l = [] := by simpa using hl
      cases htext
  rw [parse_of_noDefinitions scope hdefs, hlines,
    blocks_append_break (endsPlain_tabbed _) (by decide), blocks_tabbed hcode, joinLines_lines,
    String.ofList_toList]
  rfl

/-! ## Code of a comment -/

/-- The run of a code chunk stands in the text. -/
theorem code_mem_chunks {afterBlank : Bool} {skip : ℕ} {ls run : List Line}
    (h : Chunk.code run ∈ chunksFrom afterBlank skip ls) : run.Sublist ls := by
  obtain ⟨before, l, rest, hsuffix, -, hchunk⟩ := exists_of_mem_chunksFrom h
  rcases chunkAt_cases before l rest with ⟨text, -, -, heq⟩ | ⟨-, -, heq⟩ | ⟨-, -, heq⟩ | ⟨-, heq⟩ <;>
    rw [heq] at hchunk <;> cases hchunk
  have hrun : l :: runTail rest <+: l :: rest :=
    (List.prefix_cons_inj l).2 (runTail_isPrefix rest)
  exact hrun.sublist.trans hsuffix.sublist

theorem exists_run_of_code_mem_chunkBlocks {level codeLevel : ℕ}
    {sub : List Line → List (Block (List Char))} {chunk : Chunk} {code : String}
    (h : Block.code codeLevel code ∈ chunkBlocks level sub chunk) :
    ∃ run, chunk = .code run ∧ code = codeText run := by
  cases chunk with
  | code run => exact ⟨run, rfl, by cases List.mem_singleton.1 h; rfl⟩
  | list run => cases (mem_listBlock h).2
  | header _ | paragraph _ => cases List.mem_singleton.1 h

/-- Code consists of characters of the lines that it is read from, and of line feeds. -/
theorem mem_of_mem_code {level codeLevel : ℕ} {ls : List Line} {code : String}
    (h : (Block.code codeLevel code).Occurs (blocks level ls)) {c : Char} (hc : c ∈ code.toList) :
    c = '\n' ∨ ∃ l ∈ ls, c ∈ l := by
  obtain ⟨ks, chunk, hks, hchunk, hb⟩ := exists_chunk_of_occurs h
  obtain ⟨run, rfl, rfl⟩ := exists_run_of_code_mem_chunkBlocks hb
  rw [codeText, String.toList_ofList] at hc
  obtain heq | ⟨d, hd, hcd⟩ := mem_joinLines hc
  · exact Or.inl heq
  · obtain ⟨k, hk, hdk⟩ := exists_suffix_of_mem_dedent hd
    obtain ⟨l, hl, hkl⟩ := hks k ((code_mem_chunks hchunk).subset hk)
    exact Or.inr ⟨l, hl, (hdk.trans hkl).subset hcd⟩

theorem occurs_code_of_mapAll {α β : Type} {f : α → β} {bs : List (Block α)} {level : ℕ}
    {code : String} (h : (Block.code level code).Occurs (Block.mapAll f bs)) :
    (Block.code level code).Occurs bs := by
  obtain ⟨a, ha, hmap⟩ := h.of_mapAll
  cases a <;> cases hmap
  exact ha

theorem return_notMem_code {scope : Scope} {text : String} (hreturn : '\r' ∉ text.toList)
    {level : ℕ} {code : String} (h : (Block.code level code).Occurs (parse scope text)) :
    '\r' ∉ code.toList := by
  intro hmem
  obtain heq | ⟨l, hl, hmem⟩ := mem_of_mem_code (occurs_code_of_mapAll h) hmem
  · exact absurd heq (by decide)
  · have hline := extractFrom_subset 0 _ hl
    rw [unixNewlines_of_not_mem hreturn] at hline
    exact hreturn (mem_of_mem_lines hline hmem)

/-- **Code is read back from plain Markdown**, at whatever depth of a comment it stands. -/
theorem parse_codeBlock_plain (scope : Scope) {text : String} (hreturn : '\r' ∉ text.toList)
    {b : Block (List Span)} (h : b.Occurs (parse scope text)) (hb : b.kindName = "code")
    (language : String) : parse scope (Dialect.plain.codeBlock language b.display) = [b] := by
  have hform := wellFormed_of_occurs_parseLines (url_ne_empty_of_mem_extractFrom 0 _)
    (fun _ => newline_notMem_of_mem_body) h
  cases b with
  | paragraph | header | list => simp [Block.kindName] at hb
  | code level code =>
    obtain ⟨hlevel, -, hlines⟩ := hform
    obtain rfl : level = scope.level := hlevel
    exact parse_indentedCode scope (return_notMem_code hreturn h) hlines

/-- Code below an item, indented with a wide space and with an empty line in it. -/
def codeInItem : String :=
  "  - Run:\n\n      \u00a0a\n\n      \u2003 b"

theorem parse_codeBlock_plain_codeInItem : ∃ b : Block (List Span),
    b.Occurs (parse {} codeInItem) ∧ b.display = "a\n\n b" ∧
      parse {} (Dialect.plain.codeBlock "sh" b.display) = [b] := by
  have hfound : ((parse {} codeInItem).any fun outer => outer.items.any fun i =>
      i.blocks.any fun b => b.kindName == "code" && b.display == "a\n\n b") = true := by
    decide +kernel
  obtain ⟨outer, houter, hitems⟩ := List.any_eq_true.1 hfound
  obtain ⟨i, hi, hblocks⟩ := List.any_eq_true.1 hitems
  obtain ⟨b, hb, hcode⟩ := List.any_eq_true.1 hblocks
  rw [Bool.and_eq_true, beq_iff_eq, beq_iff_eq] at hcode
  have hoccurs : b.Occurs (parse {} codeInItem) := .of_mem_items houter hi (.here hb)
  exact ⟨b, hoccurs, hcode.2,
    parse_codeBlock_plain {} (by decide +kernel) hoccurs hcode.1 "sh"⟩

end DocPages.Comment
