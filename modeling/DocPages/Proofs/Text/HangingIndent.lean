import DocPages.Proofs.Comment.Outline
import DocPages.Proofs.Data.Traversal

/-!
# Laws of hanging indents

Indenting every line of a text but the first one acts on the lines one by one, so hanging indents add up
(`hangingIndent_hangingIndent`) and can be taken off again (`hangingOutdent?_hangingIndent`). On the pieces
of a text it acts one by one as well, but for the spaces that it puts between them (`hangingIndent_append`).

A text that stands in another one from the start of a line to the end of one (`Stands`) still does when the
other one is trimmed, and when it is indented and put behind a marker, it moves by the width of the marker
(`HoldsAt.hang`).
-/

namespace DocPages.Text

open Comment

/-! ## Hanging indents, line by line -/

theorem exists_lines_eq_cons (cs : List Char) : ∃ first rest, lines cs = first :: rest :=
  List.exists_cons_of_ne_nil (splitBy_ne_nil _ cs)

theorem newline_notMem_indentBy (n : ℕ) {l : Line} (h : '\n' ∉ l) : '\n' ∉ indentBy n l := by
  by_cases hl : l = []
  · rw [hl, indentBy_nil]
    exact List.not_mem_nil
  · rw [indentBy_of_ne_nil n hl]
    simp [h]

section

variable {cs first : List Char} {rest : List (List Char)} (n : ℕ)

theorem hangingIndent_eq_joinLines (h : lines cs = first :: rest) :
    hangingIndent n cs = joinLines (first :: rest.map (indentBy n)) := by
  unfold hangingIndent
  rw [h]
  rfl

theorem lines_hangingIndent (h : lines cs = first :: rest) :
    lines (hangingIndent n cs) = first :: rest.map (indentBy n) := by
  have hlines : ∀ l ∈ first :: rest, '\n' ∉ l := fun l hl => newline_notMem_of_mem_lines (h ▸ hl)
  obtain ⟨hfirst, hrest⟩ := List.forall_mem_cons.1 hlines
  rw [hangingIndent_eq_joinLines n h]
  refine lines_joinLines (List.cons_ne_nil _ _) (List.forall_mem_cons.2 ⟨hfirst, ?_⟩)
  rw [List.forall_mem_map]
  exact fun l hl => newline_notMem_indentBy n (hrest l hl)

end

theorem hangingIndent_hangingIndent (n m : ℕ) (cs : List Char) :
    hangingIndent m (hangingIndent n cs) = hangingIndent (n + m) cs := by
  obtain ⟨first, rest, hcs⟩ := exists_lines_eq_cons cs
  apply lines_injective
  rw [lines_hangingIndent m (lines_hangingIndent n hcs), lines_hangingIndent (n + m) hcs, List.map_map]
  refine congrArg (first :: ·) (List.map_congr_left fun l _ => ?_)
  rw [Function.comp_apply, indentBy_indentBy, Nat.add_comm]

theorem length_lines_hangingIndent (n : ℕ) (cs : List Char) :
    (lines (hangingIndent n cs)).length = (lines cs).length := by
  obtain ⟨first, rest, hcs⟩ := exists_lines_eq_cons cs
  rw [lines_hangingIndent n hcs, hcs, List.length_cons, List.length_cons, List.length_map]

theorem head?_lines_hangingIndent (n : ℕ) (cs : List Char) :
    (lines (hangingIndent n cs)).head? = (lines cs).head? := by
  obtain ⟨first, rest, hcs⟩ := exists_lines_eq_cons cs
  rw [lines_hangingIndent n hcs, hcs, List.head?_cons, List.head?_cons]

theorem lines_hangingIndent_eq_nil (n : ℕ) (cs : List Char) (i : ℕ) :
    (lines (hangingIndent n cs))[i]? = some [] ↔ (lines cs)[i]? = some [] := by
  obtain ⟨first, rest, hcs⟩ := exists_lines_eq_cons cs
  rw [lines_hangingIndent n hcs, hcs]
  cases i with
  | zero => rfl
  | succ i => simp [indentBy_eq_nil]

/-- A line without the `n` spaces at its start, if there are so many. Empty lines have none. -/
def outdentLine? (n : ℕ) (l : Line) : Option Line :=
  if l.isEmpty then some l else dropFront? (List.replicate n ' ') l

/-- Takes `n` spaces off every line but the first, if all of them that are not empty start so. -/
def hangingOutdent? (n : ℕ) (cs : List Char) : Option (List Char) :=
  match lines cs with
  | [] => none
  | first :: rest => (rest.mapM (outdentLine? n)).map fun rest => joinLines (first :: rest)

theorem outdentLine?_indentBy (n : ℕ) (l : Line) : outdentLine? n (indentBy n l) = some l := by
  by_cases hl : l = []
  · rw [hl]
    rfl
  · have hne : indentBy n l ≠ [] := fun h => hl (indentBy_eq_nil.1 h)
    rw [outdentLine?, if_neg (by simpa using hne), indentBy_of_ne_nil n hl, dropFront?_append]

theorem hangingOutdent?_hangingIndent (n : ℕ) (cs : List Char) :
    hangingOutdent? n (hangingIndent n cs) = some cs := by
  obtain ⟨first, rest, hcs⟩ := exists_lines_eq_cons cs
  have hrest : (rest.map (indentBy n)).mapM (outdentLine? n) = some (rest.map id) :=
    Data.mapM_map_eq_some fun l _ => outdentLine?_indentBy n l
  rw [List.map_id] at hrest
  unfold hangingOutdent?
  rw [lines_hangingIndent n hcs]
  simp only [hrest, Option.map_some]
  rw [← hcs, joinLines_lines]

/-! ## Hanging indents, piece by piece -/

/-- What is put between two pieces of a text that is indented: spaces, if a line with text starts there. -/
def seam (n : ℕ) (a b : List Char) : List Char :=
  if a.getLast? == some '\n' && b.head?.any (· != '\n') then List.replicate n ' ' else []

theorem seam_of_getLast? (n : ℕ) {a b : List Char} (h : a.getLast? ≠ some '\n') : seam n a b = [] :=
  if_neg (by simp [h])

theorem seam_of_head? (n : ℕ) {a b : List Char} (h : ∀ c ∈ b.head?, c = '\n') : seam n a b = [] := by
  refine if_neg fun hseam => ?_
  rw [Bool.and_eq_true, Option.any_eq_true] at hseam
  obtain ⟨-, c, hc, hne⟩ := hseam
  simp [h c hc] at hne

theorem seam_eq_replicate (n : ℕ) {a b : List Char} (ha : a.getLast? = some '\n') {c : Char}
    (hc : c ∈ b.head?) (hne : c ≠ '\n') : seam n a b = List.replicate n ' ' :=
  if_pos (by simpa [ha, Option.mem_def.1 hc] using hne)

theorem joinLines_append_cons (a l : List Char) (ls : List (List Char)) :
    joinLines ((a ++ l) :: ls) = a ++ joinLines (l :: ls) := by
  unfold joinLines
  cases ls with
  | nil => rw [List.intercalate_singleton, List.intercalate_singleton]
  | cons k ls =>
    rw [List.intercalate_cons_cons, List.intercalate_cons_cons, List.append_assoc, List.append_assoc,
      List.append_assoc]

theorem hangingIndent_nil (n : ℕ) : hangingIndent n [] = [] := rfl

/-- The line after a line break is indented unless it is empty. -/
theorem seam_newline (n : ℕ) {cs first : List Char} {rest : List (List Char)}
    (h : lines cs = first :: rest) : seam n ['\n'] cs ++ first = indentBy n first := by
  have hcs : cs = joinLines (first :: rest) := by rw [← h, joinLines_lines]
  rcases first with _ | ⟨c, first⟩
  · have hhead : ∀ c ∈ cs.head?, c = '\n' := by
      rw [hcs]
      cases rest with
      | nil => simp [joinLines]
      | cons l rest => simp [joinLines, eq_comm]
    rw [seam_of_head? n hhead]
    rfl
  · have hc : c ≠ '\n' := by
      rintro rfl
      exact newline_notMem_of_mem_lines (h ▸ List.mem_cons_self) List.mem_cons_self
    have hhead : c ∈ cs.head? := by
      rw [hcs, ← List.singleton_append (x := c), joinLines_append_cons]
      rfl
    rw [seam_eq_replicate n rfl hhead hc, indentBy_of_ne_nil n (List.cons_ne_nil c first)]

theorem hangingIndent_cons (n : ℕ) (c : Char) (cs : List Char) :
    hangingIndent n (c :: cs) = c :: (seam n [c] cs ++ hangingIndent n cs) := by
  by_cases hc : c = '\n'
  · subst hc
    obtain ⟨first, rest, hcs⟩ := exists_lines_eq_cons cs
    have hlines : lines ('\n' :: cs) = [] :: first :: rest := by rw [lines_newline_cons, hcs]
    rw [hangingIndent_eq_joinLines n hlines, hangingIndent_eq_joinLines n hcs, List.map_cons,
      ← seam_newline n hcs]
    unfold joinLines
    rw [List.intercalate_cons_cons]
    exact congrArg ('\n' :: ·) (joinLines_append_cons _ _ _)
  · obtain ⟨first, rest, hcs, hlines⟩ := exists_lines_cons hc cs
    have hlast : [c].getLast? ≠ some '\n' := by simpa using hc
    rw [hangingIndent_eq_joinLines n hlines, hangingIndent_eq_joinLines n hcs, seam_of_getLast? n hlast]
    exact joinLines_append_cons [c] first _

/-- Pieces of a text are indented apart, but for what is put between them. -/
theorem hangingIndent_append (n : ℕ) (a b : List Char) :
    hangingIndent n (a ++ b) = hangingIndent n a ++ seam n a b ++ hangingIndent n b := by
  induction a with
  | nil =>
    rw [seam_of_getLast? n (by simp), hangingIndent_nil]
    rfl
  | cons c a ih =>
    rw [List.cons_append, hangingIndent_cons, ih, hangingIndent_cons]
    rcases a with _ | ⟨d, a⟩
    · rw [seam_of_getLast? n (a := []) (by simp), seam_of_head? n (a := [c]) (b := []) (by simp),
        hangingIndent_nil]
      rfl
    · have hhead : seam n [c] (d :: a ++ b) = seam n [c] (d :: a) := rfl
      have hlast : seam n (c :: d :: a) b = seam n (d :: a) b := by
        unfold seam
        rw [List.getLast?_cons_cons]
      rw [hhead, hlast]
      simp only [List.cons_append, List.append_assoc]

theorem head?_hangingIndent (n : ℕ) (cs : List Char) : (hangingIndent n cs).head? = cs.head? := by
  cases cs with
  | nil => rfl
  | cons c cs => rw [hangingIndent_cons, List.head?_cons, List.head?_cons]

theorem getLast?_hangingIndent (n : ℕ) (cs : List Char) :
    (hangingIndent n cs).getLast? = cs.getLast? := by
  obtain rfl | ⟨cs, c, rfl⟩ := List.eq_nil_or_concat cs
  · rfl
  · have hone : hangingIndent n [c] = [c] := by
      rw [hangingIndent_cons, seam_of_head? n (by simp)]
      rfl
    rw [List.concat_eq_append, hangingIndent_append, hone, List.getLast?_concat, List.getLast?_concat]

theorem hangingIndent_of_oneLine (n : ℕ) {l : List Char} (h : '\n' ∉ l) : hangingIndent n l = l := by
  rw [hangingIndent_eq_joinLines n (lines_of_oneLine h)]
  exact List.intercalate_singleton

/-! ## Texts that stand in a text -/

/-- `t` stands in `cs` from the start of a line to the end of one. -/
def Stands (t cs : List Char) : Prop :=
  ∃ before after, cs = before ++ t ++ after ∧ (∀ c ∈ before.getLast?, c = '\n') ∧
    ∀ c ∈ after.head?, c = '\n'

theorem Stands.refl (t : List Char) : Stands t t :=
  ⟨[], [], by simp, by simp, by simp⟩

theorem Stands.trans {t cs ds : List Char} (ht : Stands t cs) (hcs : Stands cs ds) : Stands t ds := by
  obtain ⟨before, after, rfl, hbefore, hafter⟩ := ht
  obtain ⟨front, back, rfl, hfront, hback⟩ := hcs
  refine ⟨front ++ before, after ++ back, by simp, ?_, ?_⟩
  · intro c hc
    rw [List.getLast?_append, Option.mem_def, Option.or_eq_some_iff] at hc
    rcases hc with hc | ⟨-, hc⟩
    · exact hbefore c hc
    · exact hfront c hc
  · intro c hc
    rw [List.head?_append, Option.mem_def, Option.or_eq_some_iff] at hc
    rcases hc with hc | ⟨-, hc⟩
    · exact hafter c hc
    · exact hback c hc

theorem Stands.append_left {t cs front : List Char} (h : Stands t cs)
    (hfront : ∀ c ∈ front.getLast?, c = '\n') : Stands t (front ++ cs) :=
  h.trans ⟨front, [], by simp, hfront, by simp⟩

/-- Pieces with line breaks between them stand in the text that they are put together to. -/
theorem stands_intercalate {sep : List Char} (hfirst : sep.head? = some '\n')
    (hlast : sep.getLast? = some '\n') {t : List Char} {texts : List (List Char)} (ht : t ∈ texts) :
    Stands t (sep.intercalate texts) := by
  obtain ⟨xs, ys, rfl⟩ := List.append_of_mem ht
  have hfront : Stands t (sep.intercalate (t :: ys)) := by
    rcases ys with _ | ⟨y, ys⟩
    · rw [List.intercalate_singleton]
      exact Stands.refl t
    · rw [List.intercalate_cons_cons, List.append_assoc]
      refine ⟨[], _, rfl, by simp, fun c hc => ?_⟩
      rw [List.head?_append, hfirst] at hc
      exact (Option.some.inj hc).symm
  by_cases hxs : xs = []
  · rwa [hxs]
  · rw [intercalate_append_cons hxs]
    refine hfront.append_left fun c hc => ?_
    rw [List.getLast?_append, hlast] at hc
    exact (Option.some.inj hc).symm

/-- A text with text at both of its ends. -/
structure IsTrimmed (t : List Char) : Prop where
  ne_nil : t ≠ []
  head_not_blank : ∀ c ∈ t.head?, isBlank c = false
  last_not_blank : ∀ c ∈ t.getLast?, isBlank c = false

namespace IsTrimmed

variable {t : List Char}

theorem isBlankLine_eq_false (h : IsTrimmed t) : isBlankLine t = false := by
  obtain ⟨c, cs, rfl⟩ := List.exists_cons_of_ne_nil h.ne_nil
  rw [isBlankLine, List.all_cons, h.head_not_blank c rfl, Bool.false_and]

theorem trimStart_append (h : IsTrimmed t) (cs : List Char) : trimStart (t ++ cs) = t ++ cs := by
  obtain ⟨c, t, rfl⟩ := List.exists_cons_of_ne_nil h.ne_nil
  exact List.dropWhile_cons_of_neg (by simp [h.head_not_blank c rfl])

theorem trimEnd_append (h : IsTrimmed t) (cs : List Char) : trimEnd (t ++ cs) = t ++ trimEnd cs := by
  by_cases hcs : isBlankLine cs = true
  · have ht : trimEnd t = t :=
      List.rdropWhile_eq_self_iff.2 fun hne => by
        simp [h.last_not_blank _ (List.getLast?_eq_some_getLast hne)]
    rw [trimEnd_append_of_blank (isBlankLine_iff.1 hcs), ht, trimEnd_eq_nil.2 hcs, List.append_nil]
  · exact Text.trimEnd_append t (by simpa using hcs)

end IsTrimmed

theorem isTrimmed_trim {cs : List Char} (h : isBlankLine cs = false) : IsTrimmed (trim cs) := by
  obtain ⟨c, ds, hcs, hc⟩ := exists_trim_eq_cons h
  refine ⟨by simp [hcs], ?_, fun d hd => getLast?_trimEnd hd⟩
  intro d hd
  obtain rfl : c = d := by simpa [hcs] using hd
  exact hc

theorem getLast?_trimStart {cs : List Char} (h : isBlankLine cs = false) :
    (trimStart cs).getLast? = cs.getLast? := by
  obtain ⟨front, hfront⟩ : trimStart cs <:+ cs := List.dropWhile_suffix isBlank
  have hne : trimStart cs ≠ [] := by
    rw [ne_eq, ← isBlankLine_iff_trimStart, h]
    decide
  conv_rhs => rw [← hfront]
  rw [List.getLast?_append_of_ne_nil _ hne]

theorem head?_trimEnd {c : Char} {cs : List Char} (h : c ∈ (trimEnd cs).head?) : c ∈ cs.head? := by
  obtain ⟨back, hback⟩ : trimEnd cs <+: cs := List.rdropWhile_prefix isBlank cs
  rw [← hback, List.head?_append, Option.mem_def.1 h]
  rfl

theorem Stands.isBlankLine_eq_false {t cs : List Char} (h : Stands t cs) (ht : IsTrimmed t) :
    isBlankLine cs = false := by
  obtain ⟨before, after, rfl, -⟩ := h
  rw [isBlankLine, List.all_append, List.all_append, ← isBlankLine, ← isBlankLine,
    ht.isBlankLine_eq_false, Bool.and_false, Bool.false_and]

/-- What stands in a text still does when white space around the text is dropped. -/
theorem Stands.trim {t cs : List Char} (h : Stands t cs) (ht : IsTrimmed t) : Stands t (trim cs) := by
  obtain ⟨before, after, rfl, hbefore, hafter⟩ := h
  have hend : ∀ c ∈ (trimEnd after).head?, c = '\n' := fun c hc => hafter c (head?_trimEnd hc)
  rw [List.append_assoc]
  by_cases hblank : isBlankLine before = true
  · rw [trim_append_of_blank_left hblank, Text.trim, ht.trimStart_append, ht.trimEnd_append]
    exact ⟨[], trimEnd after, rfl, by simp, hend⟩
  · rw [Bool.not_eq_true] at hblank
    have htext : isBlankLine (t ++ after) = false := by
      rw [isBlankLine, List.all_append, ← isBlankLine, ht.isBlankLine_eq_false, Bool.false_and]
    rw [Text.trim, trimStart_append hblank, trimEnd_append _ htext, ht.trimEnd_append]
    refine ⟨trimStart before, trimEnd after, (List.append_assoc _ _ _).symm, ?_, hend⟩
    rwa [getLast?_trimStart hblank]

/-- `t` stands in `cs` at a column. Its first line ends a line of `cs` that has `column` characters in front
of it. Its other lines follow, with `column` spaces in front of each that is not empty. -/
def HoldsAt (column : ℕ) (t cs : List Char) : Prop :=
  ∃ line, line.length = column ∧ '\n' ∉ line ∧ Stands (line ++ hangingIndent column t) cs

theorem HoldsAt.trans {column : ℕ} {t cs ds : List Char} (h : HoldsAt column t cs) (hcs : Stands cs ds) :
    HoldsAt column t ds := by
  obtain ⟨line, hlength, hline, hstands⟩ := h
  exact ⟨line, hlength, hline, hstands.trans hcs⟩

theorem holdsAt_marker {marker : List Char} (hmarker : '\n' ∉ marker) (t : List Char) :
    HoldsAt marker.length t (marker ++ hangingIndent marker.length t) :=
  ⟨marker, rfl, hmarker, Stands.refl _⟩

/-- What stands in a text stands in the text behind a marker, moved by the width of the marker. -/
theorem HoldsAt.hang {marker t cs : List Char} {column : ℕ} (h : HoldsAt column t cs)
    (hcolumn : 0 < column) (hmarker : '\n' ∉ marker) :
    HoldsAt (marker.length + column) t (marker ++ hangingIndent marker.length cs) := by
  obtain ⟨line, hlength, hline, before, after, rfl, hbefore, hafter⟩ := h
  have hne : line ≠ [] := by
    rintro rfl
    exact hcolumn.ne hlength
  obtain ⟨c, line', rfl⟩ := List.exists_cons_of_ne_nil hne
  have hc : c ≠ '\n' := by
    rintro rfl
    exact hline List.mem_cons_self
  -- the piece that holds `t` is indented as a whole, without seams
  have hpiece : hangingIndent marker.length (c :: line' ++ hangingIndent column t) =
      c :: line' ++ hangingIndent (marker.length + column) t := by
    have hlast : (c :: line').getLast? ≠ some '\n' := fun hlast =>
      hline (List.mem_of_getLast? hlast)
    rw [hangingIndent_append, seam_of_getLast? _ hlast, hangingIndent_of_oneLine _ hline,
      hangingIndent_hangingIndent, Nat.add_comm column, List.append_nil]
  rw [hangingIndent_append, seam_of_head? _ hafter, List.append_nil, hangingIndent_append, hpiece]
  have hafter' : ∀ d ∈ (hangingIndent marker.length after).head?, d = '\n' := by
    rwa [head?_hangingIndent]
  rcases List.eq_nil_or_concat before with rfl | ⟨before, d, rfl⟩
  · refine ⟨marker ++ c :: line', by simp [hlength], by simp_all, [], _, ?_, by simp, hafter'⟩
    rw [hangingIndent_nil, seam_of_getLast? _ (by simp)]
    simp only [List.nil_append, List.append_assoc]
  · obtain rfl : d = '\n' := hbefore d (by simp)
    have hseam : seam marker.length (before.concat '\n') (c :: line' ++ hangingIndent column t) =
        List.replicate marker.length ' ' := seam_eq_replicate _ (by simp) rfl hc
    refine ⟨List.replicate marker.length ' ' ++ c :: line', by simp [hlength], by simp_all,
      marker ++ hangingIndent marker.length (before.concat '\n'), _, ?_, ?_, hafter'⟩
    · rw [hseam]
      simp only [List.append_assoc]
    · intro d hd
      have hbreak : (hangingIndent marker.length (before.concat '\n')).getLast? = some '\n' := by
        rw [getLast?_hangingIndent]
        simp
      rw [List.getLast?_append, hbreak] at hd
      exact (Option.some.inj hd).symm

end DocPages.Text
