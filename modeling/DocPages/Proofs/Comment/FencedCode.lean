import DocPages.Proofs.Comment.IndentedCode

/-!
# Code written between fences

Dialects with fences write code between two lines of backticks. A reader of Markdown takes the lines up
to the first one that closes the fence, which need not be the line that was written for it
(`readFenced?`).

What is read back is the trimmed code up to a closing line (`readFenced?_fencedCode`). The code of a
comment starts and ends with text, so trimming it keeps the number of its lines and changes only the
first and the last of them (`lines_trim`). But indentation is relative to the least indented line, and
that need not be the first one: its indentation is lost, and so is white space at the end of the last
line. So reading returns the code of a comment exactly if it has nothing to trim and none of its lines
closes a fence (`readFenced?_codeBlock`).
-/

namespace DocPages.Comment

open Text

/-- The line that stands before and after code. -/
def fenceMark : List Char :=
  List.replicate 3 '\x60'

/-- A line that ends code between fences: at most three spaces, at least three backticks, and white
space. -/
def closesFence (l : Line) : Bool :=
  let marked := l.dropWhile (· == ' ')
  Nat.ble (l.takeWhile (· == ' ')).length 3 && Nat.ble 3 (marked.takeWhile (· == '\x60')).length &&
    isBlankLine (marked.dropWhile (· == '\x60'))

/-- What a reader takes from code between fences. -/
structure Fenced where
  language : List Char
  lines : List Line
  deriving DecidableEq

/-- Reads code that starts with a fence: the language behind the fence, and the lines up to the first one
that closes it. -/
def readFenced? (text : List Char) : Option Fenced :=
  match lines text with
  | [] => none
  | opening :: rest => (dropFront? fenceMark opening).map fun language =>
      ⟨language, rest.takeWhile fun l => !closesFence l⟩

/-- Lines without the white space before the first and after the last one. -/
def trimEnds (ls : List Line) : List Line :=
  (ls.modifyHead trimStart).modifyLast trimEnd

/-! ## Reading a block -/

theorem newline_notMem_of_letters {cs : List Char} (h : ∀ c ∈ cs, isLetter c = true) : '\n' ∉ cs :=
  fun hmem => absurd (h _ hmem) (by decide)

theorem lines_fencedCode {language : String} (hlanguage : '\n' ∉ language.toList) (code : String) :
    lines (Dialect.fencedCode language code).toList =
      (fenceMark ++ language.toList) :: (lines (trim code.toList) ++ fenceMark :: [[], []]) := by
  have hopening : '\n' ∉ fenceMark ++ language.toList := by
    rw [List.mem_append, not_or]
    exact ⟨by decide, hlanguage⟩
  have htext : (Dialect.fencedCode language code).toList =
      (fenceMark ++ language.toList) ++
        '\n' :: (trim code.toList ++ '\n' :: (fenceMark ++ ['\n', '\n'])) := by
    simp [Dialect.fencedCode, onChars, fenceMark]
  rw [htext, lines_append_newline, lines_append_newline, lines_of_oneLine hopening]
  rfl

/-- Reading returns the trimmed code up to the first line that closes a fence. -/
theorem readFenced?_fencedCode {language : String} (hlanguage : '\n' ∉ language.toList)
    (code : String) : readFenced? (Dialect.fencedCode language code).toList =
      some ⟨language.toList, (lines (trim code.toList)).takeWhile fun l => !closesFence l⟩ := by
  rw [readFenced?, lines_fencedCode hlanguage]
  simp only [dropFront?_append, Option.map_some]
  rw [takeWhile_append_stop (by decide)]

/-! ## Trimming the code of a comment -/

theorem length_trimEnds (ls : List Line) : (trimEnds ls).length = ls.length := by
  have hlast (ks : List Line) : (ks.modifyLast trimEnd).length = ks.length := by
    cases ks using List.reverseRecOn with
    | nil => rfl
    | append_singleton ks l =>
      rw [List.modifyLast_concat, List.length_append, List.length_append]
      rfl
  rw [trimEnds, hlast, List.length_modifyHead]

theorem isBlankLine_last_trimStart (ls : List Line) :
    (ls.modifyHead trimStart).getLast?.map isBlankLine = ls.getLast?.map isBlankLine := by
  cases ls with
  | nil => rfl
  | cons first rest =>
    cases rest with
    | nil => exact congrArg some (isBlankLine_trimStart first)
    | cons second rest => rw [List.modifyHead_cons, List.getLast?_cons_cons, List.getLast?_cons_cons]

/-- Trimming code that comes from a comment affects its first and its last line only. -/
theorem lines_trim {cs : List Char} (h : CodeLines (lines cs)) : lines (trim cs) = trimEnds (lines cs) := by
  have hfirst : ∀ l ∈ (lines cs).head?, isBlankLine l = false := by
    obtain ⟨l, hl, htext, -⟩ := h.first
    intro k hk
    rwa [Option.mem_unique hk hl]
  have hlast : ∀ l ∈ ((lines cs).modifyHead trimStart).getLast?, isBlankLine l = false := by
    obtain ⟨l, hl, htext⟩ := h.last
    have hmap := isBlankLine_last_trimStart (lines cs)
    intro k hk
    rw [hk, hl, Option.map_some, Option.map_some, Option.some_inj] at hmap
    rw [hmap, htext]
  rw [trim, lines_trimEnd (by rwa [lines_trimStart hfirst]), lines_trimStart hfirst, trimEnds]

/-- A reader returns all lines exactly if nothing is trimmed from them and none of them stops it. -/
theorem takeWhile_trimEnds_eq_self_iff (p : Line → Bool) (ls : List Line) :
    (trimEnds ls).takeWhile p = ls ↔ trimEnds ls = ls ∧ ∀ l ∈ ls, p l = true := by
  constructor
  · intro h
    have hlength : ((trimEnds ls).takeWhile p).length = (trimEnds ls).length := by
      rw [h, length_trimEnds]
    have hall : (trimEnds ls).takeWhile p = trimEnds ls :=
      (List.takeWhile_prefix p).eq_of_length hlength
    have htrim : trimEnds ls = ls := hall.symm.trans h
    rw [htrim] at h
    exact ⟨htrim, fun l hl => List.takeWhile_eq_self_iff.1 h l hl⟩
  · rintro ⟨htrim, hall⟩
    rw [htrim, List.takeWhile_eq_self_iff]
    exact hall

theorem codeLines_of_occurs {scope : Scope} {text : String} {b : Block (List Span)}
    (h : b.Occurs (parse scope text)) (hb : b.kindName = "code") : CodeLines (lines b.display.toList) := by
  have hform := wellFormed_of_occurs_parseLines (url_ne_empty_of_mem_extractFrom 0 _)
    (fun _ => newline_notMem_of_mem_body) h
  cases b with
  | paragraph | header | list => simp [Block.kindName] at hb
  | code level code => exact hform.2.2

/-- A code block is found by its text. -/
theorem exists_code (scope : Scope) (text code : String)
    (h : ((parse scope text).any fun b => b.kindName == "code" && b.display == code) = true) :
    ∃ b : Block (List Span), b.Occurs (parse scope text) ∧ b.kindName = "code" ∧ b.display = code := by
  obtain ⟨b, hb, hcode⟩ := List.any_eq_true.1 h
  rw [Bool.and_eq_true, beq_iff_eq, beq_iff_eq] at hcode
  exact ⟨b, .here hb, hcode⟩

/-- **What is read back from code between fences**, for the code of a comment at any depth. Only the first
and the last line are trimmed, and reading stops at a line that closes a fence; so the code comes back
exactly if it is trimmed already and has no such line. -/
theorem readFenced?_codeBlock (scope : Scope) {text : String} {b : Block (List Span)}
    (h : b.Occurs (parse scope text)) (hb : b.kindName = "code") {language : String}
    (hlanguage : ∀ c ∈ language.toList, isLetter c = true) :
    readFenced? (Dialect.github.codeBlock language b.display).toList =
        some ⟨language.toList,
          (trimEnds (lines b.display.toList)).takeWhile fun l => !closesFence l⟩ ∧
      (readFenced? (Dialect.github.codeBlock language b.display).toList =
          some ⟨language.toList, lines b.display.toList⟩ ↔
        trim b.display.toList = b.display.toList ∧
          ∀ l ∈ lines b.display.toList, closesFence l = false) := by
  have htrim := lines_trim (codeLines_of_occurs h hb)
  have hread : readFenced? (Dialect.github.codeBlock language b.display).toList = some ⟨language.toList,
      (trimEnds (lines b.display.toList)).takeWhile fun l => !closesFence l⟩ := by
    rw [← htrim]
    exact readFenced?_fencedCode (newline_notMem_of_letters hlanguage) b.display
  have hsame : trimEnds (lines b.display.toList) = lines b.display.toList ↔
      trim b.display.toList = b.display.toList := by
    rw [← htrim]
    exact lines_injective.eq_iff
  refine ⟨hread, ?_⟩
  rw [hread, Option.some_inj, Fenced.mk.injEq, and_iff_right rfl, takeWhile_trimEnds_eq_self_iff, hsame]
  simp only [Bool.not_eq_true']

/-- Code that shows how to write a line of backticks. -/
def codeWithMark : String :=
  "Start with\n\n\t# title\n\t\x60\x60\x60\n\ttext"

theorem readFenced?_codeBlock_codeWithMark : ∃ b : Block (List Span),
    b.Occurs (parse {} codeWithMark) ∧ b.display = "# title\n\x60\x60\x60\ntext" ∧
      readFenced? (Dialect.github.codeBlock "md" b.display).toList =
        some ⟨"md".toList, ["# title".toList]⟩ := by
  have hletters : "md".toList.all isLetter = true := by decide
  obtain ⟨b, hb, hkind, hdisplay⟩ :=
    exists_code {} codeWithMark "# title\n\x60\x60\x60\ntext" (by decide +kernel)
  refine ⟨b, hb, hdisplay, ?_⟩
  rw [(readFenced?_codeBlock {} hb hkind (List.all_eq_true.1 hletters)).1, hdisplay]
  decide +kernel

/-- A table whose first line names the columns. -/
def columnTable : String :=
  "\t  x y\n\ta 1 2"

/-- The indentation of the first line is lost between fences. -/
theorem readFenced?_codeBlock_columnTable : ∃ b : Block (List Span),
    b.Occurs (parse {} columnTable) ∧ b.kindName = "code" ∧
      lines b.display.toList = ["  x y".toList, "a 1 2".toList] ∧
      readFenced? (Dialect.github.codeBlock "txt" b.display).toList =
        some ⟨"txt".toList, ["x y".toList, "a 1 2".toList]⟩ := by
  obtain ⟨b, hb, hkind, hdisplay⟩ := exists_code {} columnTable "  x y\na 1 2" (by decide +kernel)
  refine ⟨b, hb, hkind, ?_⟩
  rw [hdisplay]
  decide +kernel

end DocPages.Comment
