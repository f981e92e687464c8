import DocPages.Text.Lines
import Mathlib.Data.List.DropRight
import Mathlib.Data.List.ModifyLast

/-!
# Laws of lines and white space

Splitting and trimming are core's `List.splitOnP` and `List.rdropWhile`, so their laws carry over. White
space is treated through `isBlank` alone; of the class itself only a few members are used.
-/

namespace DocPages.Text

/-! ## White space -/

theorem isBlank_space : isBlank ' ' = true := by decide

theorem isBlank_newline : isBlank '\n' = true := by decide

theorem isBlank_return : isBlank '\r' = true := by decide

theorem isBlankLine_nil : isBlankLine [] = true := rfl

theorem isBlankLine_iff {l : List Char} : isBlankLine l = true ↔ ∀ c ∈ l, isBlank c = true := by
  unfold isBlankLine
  exact List.all_eq_true

/-! ## Lines -/

/-- The pieces between separators are made of what does not separate. -/
theorem of_mem_splitOnP {α : Type} {p : α → Bool} {xs : List α} : ∀ {piece : List α},
    piece ∈ xs.splitOnP p → ∀ x ∈ piece, x ∈ xs ∧ p x = false := by
  induction xs with
  | nil =>
    intro piece hpiece x hx
    rw [List.splitOnP_nil, List.mem_singleton] at hpiece
    subst hpiece
    cases hx
  | cons y ys ih =>
    intro piece hpiece x hx
    rw [List.splitOnP_cons_eq_if_modifyHead] at hpiece
    split_ifs at hpiece with hy
    · rcases List.mem_cons.1 hpiece with rfl | hpiece
      · cases hx
      · exact ⟨List.mem_cons_of_mem y (ih hpiece x hx).1, (ih hpiece x hx).2⟩
    · obtain ⟨first, others, hsplit⟩ := List.exists_cons_of_ne_nil (List.splitOnP_ne_nil p ys)
      rw [hsplit, List.modifyHead_cons] at hpiece
      rw [hsplit] at ih
      rcases List.mem_cons.1 hpiece with rfl | hpiece
      · rcases List.mem_cons.1 hx with rfl | hx
        · exact ⟨List.mem_cons_self, by simpa using hy⟩
        · have h := ih List.mem_cons_self x hx
          exact ⟨List.mem_cons_of_mem y h.1, h.2⟩
      · have h := ih (List.mem_cons_of_mem first hpiece) x hx
        exact ⟨List.mem_cons_of_mem y h.1, h.2⟩

theorem splitBy_eq_splitOnP (p : Char → Bool) (cs : List Char) :
    splitBy p cs = cs.splitOnP p := by
  induction cs with
  | nil => rfl
  | cons c cs ih =>
    rw [splitBy, List.splitOnP_cons_eq_if_modifyHead, ih]
    by_cases hc : p c
    · rw [if_pos hc, if_pos hc]
    · rw [if_neg hc, if_neg hc]
      obtain ⟨piece, pieces, hsplit⟩ := List.exists_cons_of_ne_nil (List.splitOnP_ne_nil p cs)
      rw [hsplit]
      rfl

/-- The first piece goes up to the first separator. -/
theorem exists_splitOn_eq_cons (sep : Char) (cs : List Char) :
    ∃ rest, cs.splitOn sep = cs.takeWhile (· != sep) :: rest := by
  induction cs with
  | nil => exact ⟨[], rfl⟩
  | cons c cs ih =>
    obtain ⟨rest, hrest⟩ := ih
    unfold List.splitOn at hrest ⊢
    rw [List.splitOnP_cons_eq_if_modifyHead]
    by_cases hc : (c == sep) = true
    · rw [if_pos hc, List.takeWhile_cons_of_neg (by simpa using hc)]
      exact ⟨_, rfl⟩
    · rw [if_neg hc, List.takeWhile_cons_of_pos (by simpa using hc), hrest]
      exact ⟨rest, rfl⟩

theorem intercalate_append_cons {α : Type} {sep : List α} {pieces : List (List α)} (h : pieces ≠ [])
    (piece : List α) (rest : List (List α)) :
    sep.intercalate (pieces ++ piece :: rest) =
      sep.intercalate pieces ++ sep ++ sep.intercalate (piece :: rest) := by
  induction pieces with
  | nil => exact absurd rfl h
  | cons first pieces ih =>
    rcases pieces with _ | ⟨second, pieces⟩
    · rw [List.singleton_append, List.intercalate_cons_cons, List.intercalate_singleton]
    · rw [List.cons_append, List.cons_append, List.intercalate_cons_cons, List.intercalate_cons_cons,
        ← List.cons_append, ih (List.cons_ne_nil second pieces)]
      simp only [List.append_assoc]

theorem lines_eq_splitOn (cs : List Char) : lines cs = cs.splitOn '\n' :=
  splitBy_eq_splitOnP _ cs

theorem mem_of_mem_lines {c : Char} {l cs : List Char} (hl : l ∈ lines cs) (hc : c ∈ l) : c ∈ cs := by
  rw [lines_eq_splitOn] at hl
  exact (of_mem_splitOnP hl c hc).1

theorem newline_notMem_of_mem_lines {l cs : List Char} (hl : l ∈ lines cs) : '\n' ∉ l := by
  rw [lines_eq_splitOn] at hl
  intro hmem
  exact absurd (of_mem_splitOnP hl _ hmem).2 (by decide)

theorem lines_append_newline (a b : List Char) : lines (a ++ '\n' :: b) = lines a ++ lines b := by
  rw [lines_eq_splitOn, lines_eq_splitOn, lines_eq_splitOn]
  exact List.splitOnP_append_cons a b (by decide)

theorem lines_newline_cons (cs : List Char) : lines ('\n' :: cs) = [] :: lines cs :=
  lines_append_newline [] cs

/-- A character that is no line feed belongs to the first line. -/
theorem exists_lines_cons {c : Char} (hc : c ≠ '\n') (cs : List Char) :
    ∃ first rest, lines cs = first :: rest ∧ lines (c :: cs) = (c :: first) :: rest := by
  obtain ⟨first, rest, hcs⟩ := List.exists_cons_of_ne_nil (splitBy_ne_nil (· == '\n') cs)
  refine ⟨first, rest, hcs, ?_⟩
  unfold lines
  rw [splitBy, beq_eq_false_iff_ne.2 hc, hcs]
  rfl

theorem joinLines_lines (cs : List Char) : joinLines (lines cs) = cs := by
  rw [lines_eq_splitOn]
  exact List.intercalate_splitOn '\n'

theorem lines_injective : Function.Injective lines :=
  Function.LeftInverse.injective joinLines_lines

theorem lines_joinLines {ls : List (List Char)} (hne : ls ≠ []) (h : ∀ l ∈ ls, '\n' ∉ l) :
    lines (joinLines ls) = ls := by
  rw [lines_eq_splitOn]
  exact List.splitOn_intercalate '\n' h hne

theorem lines_of_oneLine {l : List Char} (h : '\n' ∉ l) : lines l = [l] := by
  have hsplit := lines_joinLines (List.cons_ne_nil l []) (by simpa using h)
  rwa [joinLines, List.intercalate_singleton] at hsplit

theorem mem_intercalate {sep c : Char} {pieces : List (List Char)}
    (h : c ∈ [sep].intercalate pieces) : c = sep ∨ ∃ piece ∈ pieces, c ∈ piece := by
  induction pieces with
  | nil => cases h
  | cons piece pieces ih =>
    rcases pieces with _ | ⟨next, pieces⟩
    · rw [List.intercalate_singleton] at h
      exact Or.inr ⟨piece, List.mem_cons_self, h⟩
    · rw [List.intercalate_cons_cons] at h
      rcases List.mem_append.1 h with h | h
      · rcases List.mem_append.1 h with h | h
        · exact Or.inr ⟨piece, List.mem_cons_self, h⟩
        · exact Or.inl (List.mem_singleton.1 h)
      · obtain rfl | ⟨m, hm, hc⟩ := ih h
        · exact Or.inl rfl
        · exact Or.inr ⟨m, List.mem_cons_of_mem piece hm, hc⟩

theorem joinWords_cons (w : List Char) (ws : List (List Char)) :
    joinWords (w :: ws) = w ++ ws.flatMap (' ' :: ·) := by
  induction ws generalizing w with
  | nil => simp [joinWords]
  | cons v ws ih =>
    have hnext := ih v
    unfold joinWords at hnext ⊢
    rw [List.intercalate_cons_cons, hnext]
    simp

theorem mem_joinLines {c : Char} {ls : List (List Char)} (h : c ∈ joinLines ls) :
    c = '\n' ∨ ∃ l ∈ ls, c ∈ l :=
  mem_intercalate h

/-- The pieces between separators hold everything else. -/
theorem exists_mem_splitBy {sep c : Char} {cs : List Char} (h : c ∈ cs) :
    c = sep ∨ ∃ piece ∈ splitBy (· == sep) cs, c ∈ piece := by
  rw [splitBy_eq_splitOnP]
  exact mem_intercalate (by rwa [← List.splitOn, List.intercalate_splitOn])

/-- A text that does not end in a carriage return is normalised apart from what follows it. -/
theorem unixNewlines_append {a : List Char} (h : a.getLast? ≠ some '\r') (b : List Char) :
    unixNewlines (a ++ b) = unixNewlines a ++ unixNewlines b := by
  fun_induction unixNewlines a with
  | case1 cs ih =>
    have h' : cs.getLast? ≠ some '\r' := by
      intro hcs
      apply h
      rw [List.getLast?_cons, List.getLast?_cons, hcs]
      rfl
    rw [List.cons_append, List.cons_append, unixNewlines, ih h', List.cons_append]
  | case2 c cs hpair ih =>
    have h' : cs.getLast? ≠ some '\r' := by
      intro hcs
      apply h
      rw [List.getLast?_cons, hcs]
      rfl
    rw [List.cons_append, List.cons_append, unixNewlines, ih h']
    -- the pair could only be completed by the first character of `b`, after a return at the end
    rintro d rfl hd
    rcases cs with _ | ⟨e, cs⟩
    · exact h rfl
    · simp only [List.cons_append, List.cons.injEq] at hd
      exact hpair cs rfl (by rw [hd.1])
  | case3 => rfl

theorem unixNewlines_of_not_mem {cs : List Char} (h : '\r' ∉ cs) : unixNewlines cs = cs := by
  fun_induction unixNewlines cs with
  | case1 cs _ => exact absurd List.mem_cons_self h
  | case2 c cs _ ih => rw [ih fun hcs => h (List.mem_cons_of_mem c hcs)]
  | case3 => rfl

theorem unixNewlines_of_oneLine {cs : List Char} (h : '\n' ∉ cs) : unixNewlines cs = cs := by
  fun_induction unixNewlines cs with
  | case1 cs _ => exact absurd (List.mem_cons_of_mem _ List.mem_cons_self) h
  | case2 c cs _ ih => rw [ih fun hcs => h (List.mem_cons_of_mem c hcs)]
  | case3 => rfl

/-- Only a carriage return at the end of a line is dropped. -/
theorem unixNewlines_of_lines {cs : List Char} (h : ∀ l ∈ lines cs, l.getLast? ≠ some '\r') :
    unixNewlines cs = cs := by
  fun_induction unixNewlines cs with
  | case1 cs _ =>
    have hlines : lines ('\r' :: '\n' :: cs) = ['\r'] :: lines cs := lines_append_newline ['\r'] cs
    exact absurd rfl (h ['\r'] (hlines ▸ List.mem_cons_self))
  | case2 c cs _ ih =>
    rw [ih]
    intro l hl hlast
    by_cases hc : c = '\n'
    · subst hc
      exact h l (by rw [lines_newline_cons]; exact List.mem_cons_of_mem _ hl) hlast
    · obtain ⟨first, rest, hcs, hlines⟩ := exists_lines_cons hc cs
      rw [hcs] at hl
      rcases List.mem_cons.1 hl with rfl | hl
      · exact h (c :: l) (hlines ▸ List.mem_cons_self) (by rw [List.getLast?_cons, hlast]; rfl)
      · exact h l (hlines ▸ List.mem_cons_of_mem _ hl) hlast
  | case3 => rfl

theorem mem_of_mem_unixNewlines {c : Char} {cs : List Char} (h : c ∈ unixNewlines cs) : c ∈ cs := by
  fun_induction unixNewlines cs with
  | case1 cs ih =>
    rcases List.mem_cons.1 h with rfl | h
    · exact List.mem_cons_of_mem _ List.mem_cons_self
    · exact List.mem_cons_of_mem _ (List.mem_cons_of_mem _ (ih h))
  | case2 d cs _ ih =>
    rcases List.mem_cons.1 h with rfl | h
    · exact List.mem_cons_self
    · exact List.mem_cons_of_mem d (ih h)
  | case3 => exact h

/-! ## Trimming -/

theorem isBlankLine_iff_trimStart {cs : List Char} : isBlankLine cs = true ↔ trimStart cs = [] := by
  rw [isBlankLine_iff]
  exact List.dropWhile_eq_nil_iff.symm

theorem isBlankLine_trimStart (cs : List Char) : isBlankLine (trimStart cs) = isBlankLine cs := by
  have hagain : trimStart (trimStart cs) = trimStart cs := List.dropWhile_idempotent isBlank cs
  rw [Bool.eq_iff_iff, isBlankLine_iff_trimStart, isBlankLine_iff_trimStart, hagain]

theorem trimEnd_eq_nil {cs : List Char} : trimEnd cs = [] ↔ isBlankLine cs = true := by
  rw [isBlankLine_iff]
  exact List.rdropWhile_eq_nil_iff

/-- Trimming does not reach past text. -/
theorem trimStart_append {a : List Char} (h : isBlankLine a = false) (b : List Char) :
    trimStart (a ++ b) = trimStart a ++ b := by
  have hne : (a.dropWhile isBlank).isEmpty = false := by
    rw [Bool.eq_false_iff, ne_eq, List.isEmpty_iff, List.dropWhile_eq_nil_iff, ← isBlankLine_iff, h]
    decide
  unfold trimStart
  rw [List.dropWhile_append, hne]
  rfl

theorem trimEnd_append (a : List Char) {b : List Char} (h : isBlankLine b = false) :
    trimEnd (a ++ b) = a ++ trimEnd b := by
  have hreverse : isBlankLine b.reverse = false := by rw [isBlankLine, List.all_reverse, ← isBlankLine, h]
  have hstart := trimStart_append hreverse a.reverse
  unfold trimStart at hstart
  unfold trimEnd dropEndWhile
  rw [List.reverse_append, hstart, List.reverse_append, List.reverse_reverse]

theorem trimEnd_append_of_blank {cs ds : List Char} (h : ∀ c ∈ ds, isBlank c = true) :
    trimEnd (cs ++ ds) = trimEnd cs := by
  unfold trimEnd dropEndWhile
  rw [List.reverse_append, List.dropWhile_append_of_pos]
  intro c hc
  exact h c (List.mem_reverse.1 hc)

theorem getLast?_trimEnd {c : Char} {cs : List Char} (h : c ∈ (trimEnd cs).getLast?) :
    isBlank c = false := by
  obtain ⟨hne, rfl⟩ := List.mem_getLast?_eq_getLast h
  exact Bool.eq_false_iff.2 (List.rdropWhile_last_not isBlank cs hne)

theorem trim_eq_nil {cs : List Char} : trim cs = [] ↔ isBlankLine cs = true := by
  rw [trim, trimEnd_eq_nil, isBlankLine_trimStart]

theorem trim_append_of_blank_left {a : List Char} (h : isBlankLine a = true) (b : List Char) :
    trim (a ++ b) = trim b := by
  unfold trim trimStart
  rw [List.dropWhile_append_of_pos (isBlankLine_iff.1 h)]

theorem trim_append_of_blank_right (a : List Char) {b : List Char} (h : isBlankLine b = true) :
    trim (a ++ b) = trim a := by
  by_cases ha : isBlankLine a = true
  · rw [trim_append_of_blank_left ha, trim_eq_nil.2 h, trim_eq_nil.2 ha]
  · rw [trim, trimStart_append (by simpa using ha), trimEnd_append_of_blank (isBlankLine_iff.1 h), trim]

theorem trim_trimStart (cs : List Char) : trim (trimStart cs) = trim cs := by
  have hagain : trimStart (trimStart cs) = trimStart cs := List.dropWhile_idempotent isBlank cs
  rw [trim, hagain, trim]

theorem trim_trimEnd (cs : List Char) : trim (trimEnd cs) = trim cs := by
  have hblank : isBlankLine (cs.rtakeWhile isBlank) = true :=
    isBlankLine_iff.2 fun c hc => List.mem_rtakeWhile_imp hc
  have hcs : cs = trimEnd cs ++ cs.rtakeWhile isBlank := List.rdropWhile_append_rtakeWhile.symm
  conv_rhs => rw [hcs, trim_append_of_blank_right _ hblank]

theorem mem_of_mem_trim {c : Char} {cs : List Char} (h : c ∈ trim cs) : c ∈ cs :=
  (List.dropWhile_suffix isBlank).subset ((List.rdropWhile_prefix isBlank (trimStart cs)).subset h)

theorem exists_trim_cons {c : Char} (hc : isBlank c = false) (cs : List Char) :
    ∃ ds, trim (c :: cs) = c :: ds := by
  have hstart : trimStart (c :: cs) = c :: cs := List.dropWhile_cons_of_neg (by simp [hc])
  have hprefix : trimEnd (c :: cs) <+: c :: cs := List.rdropWhile_prefix isBlank (c :: cs)
  have hne : trimEnd (c :: cs) ≠ [] := by
    rw [ne_eq, trimEnd_eq_nil, isBlankLine_iff, List.forall_mem_cons, hc]
    simp
  rw [trim, hstart]
  obtain ⟨d, ds, hds⟩ := List.exists_cons_of_ne_nil hne
  rw [hds, List.cons_prefix_cons] at hprefix
  exact ⟨ds, by rw [hds, hprefix.1]⟩

/-- A trimmed text starts with text. -/
theorem exists_trim_eq_cons {cs : List Char} (h : isBlankLine cs = false) :
    ∃ c ds, trim cs = c :: ds ∧ isBlank c = false := by
  have hne : trimStart cs ≠ [] := by
    rw [ne_eq, ← isBlankLine_iff_trimStart, h]
    decide
  obtain ⟨c, rest, hstart⟩ := List.exists_cons_of_ne_nil hne
  have hc : isBlank c = false := by
    have hhead := List.head?_dropWhile_not isBlank cs
    unfold trimStart at hstart
    simpa [hstart] using hhead
  have hagain : trimStart (c :: rest) = c :: rest := List.dropWhile_cons_of_neg (by simp [hc])
  obtain ⟨ds, hds⟩ := exists_trim_cons hc rest
  rw [trim, hagain] at hds
  exact ⟨c, ds, by rw [trim, hstart, hds], hc⟩

/-- A text with text at both ends is trimmed. -/
theorem trim_eq_self {cs : List Char} (hstart : ∀ c ∈ cs.head?, isBlank c = false)
    (hend : ∀ c ∈ cs.getLast?, isBlank c = false) : trim cs = cs := by
  have htrim : trimStart cs = cs := by
    cases cs with
    | nil => rfl
    | cons c cs => exact List.dropWhile_cons_of_neg (by simp [hstart c rfl])
  rw [trim, htrim]
  apply List.rdropWhile_eq_self_iff.2
  intro hne
  simp [hend _ (List.getLast?_eq_some_getLast hne)]

/-- Trimming a text that starts with text trims its first line. -/
theorem lines_trimStart {cs : List Char} (h : ∀ l ∈ (lines cs).head?, isBlankLine l = false) :
    lines (trimStart cs) = (lines cs).modifyHead trimStart := by
  have hone {l : List Char} (hl : '\n' ∉ l) : lines (trimStart l) = [trimStart l] :=
    lines_of_oneLine fun hmem => hl ((List.dropWhile_suffix isBlank).subset hmem)
  by_cases hbreak : '\n' ∈ cs
  · obtain ⟨first, rest, rfl, hfirst⟩ := List.eq_append_cons_of_mem hbreak
    rw [lines_append_newline, lines_of_oneLine hfirst] at h ⊢
    rw [trimStart_append (h first rfl), lines_append_newline, hone hfirst, List.singleton_append,
      List.singleton_append, List.modifyHead_cons]
  · rw [lines_of_oneLine hbreak, hone hbreak, List.modifyHead_cons]

/-- Trimming a text that ends with text trims its last line. -/
theorem lines_trimEnd {cs : List Char} (h : ∀ l ∈ (lines cs).getLast?, isBlankLine l = false) :
    lines (trimEnd cs) = (lines cs).modifyLast trimEnd := by
  have hone {l : List Char} (hl : '\n' ∉ l) : lines (trimEnd l) = [trimEnd l] :=
    lines_of_oneLine fun hmem => hl ((List.rdropWhile_prefix isBlank l).subset hmem)
  by_cases hbreak : '\n' ∈ cs
  · -- the last line break is the first one from behind
    obtain ⟨last, before, hcs, hlast⟩ := List.eq_append_cons_of_mem (List.mem_reverse.2 hbreak)
    obtain rfl : cs = before.reverse ++ '\n' :: last.reverse := by
      simpa using congrArg List.reverse hcs
    have hlast' : '\n' ∉ last.reverse := by simpa using hlast
    rw [lines_append_newline, lines_of_oneLine hlast'] at h ⊢
    have htext : isBlankLine last.reverse = false := h _ (by simp)
    rw [← List.singleton_append, ← List.append_assoc, trimEnd_append _ htext, List.append_assoc,
      List.singleton_append, lines_append_newline, hone hlast', List.modifyLast_concat]
  · rw [lines_of_oneLine hbreak, hone hbreak]
    rfl

theorem takeToLast_eq_rdropWhile {α : Type} (p : α → Bool) (xs : List α) :
    takeToLast p xs = xs.rdropWhile fun x => !p x := rfl

theorem takeToLast_isPrefix {α : Type} (p : α → Bool) (xs : List α) : takeToLast p xs <+: xs :=
  List.rdropWhile_prefix _ xs

/-- The last of the items that are kept counts. -/
theorem getLast?_takeToLast {α : Type} {p : α → Bool} {xs : List α} {x : α}
    (h : x ∈ (takeToLast p xs).getLast?) : p x = true := by
  rw [takeToLast_eq_rdropWhile] at h
  obtain ⟨hne, rfl⟩ := List.mem_getLast?_eq_getLast h
  simpa using List.rdropWhile_last_not _ _ hne

/-- What is dropped at the end does not count. -/
theorem exists_eq_takeToLast_append {α : Type} (p : α → Bool) (xs : List α) :
    ∃ rest, xs = takeToLast p xs ++ rest ∧ ∀ x ∈ rest, p x = false := by
  refine ⟨xs.rtakeWhile fun x => !p x, List.rdropWhile_append_rtakeWhile.symm, ?_⟩
  intro x hx
  simpa using List.mem_rtakeWhile_imp hx

/-- Items at the end that do not count are dropped. -/
theorem takeToLast_append_of_forall {α : Type} {p : α → Bool} {ys : List α}
    (h : ∀ y ∈ ys, p y = false) (xs : List α) : takeToLast p (xs ++ ys) = takeToLast p xs := by
  unfold takeToLast
  rw [List.reverse_append, List.dropWhile_append_of_pos]
  intro y hy
  rw [h y (List.mem_reverse.1 hy)]
  rfl

theorem drop_length_takeWhile {α : Type} (p : α → Bool) (xs : List α) :
    xs.drop (xs.takeWhile p).length = xs.dropWhile p := by
  have hdrop := List.prefix_iff_eq_append.1 (List.takeWhile_prefix (l := xs) p)
  exact List.append_cancel_left (hdrop.trans List.takeWhile_append_dropWhile.symm)

theorem takeWhile_append_stop {α : Type} {p : α → Bool} {x : α} (hx : p x = false) (xs ys : List α) :
    (xs ++ x :: ys).takeWhile p = xs.takeWhile p := by
  rw [List.takeWhile_append, List.takeWhile_cons_of_neg (by simp [hx]), List.append_nil]
  split
  · rename_i hlen
    exact ((List.takeWhile_prefix _).eq_of_length hlen).symm
  · rfl

theorem takeWhile_append_of_head {α : Type} {p : α → Bool} {xs ys : List α}
    (hxs : ∀ x ∈ xs, p x = true) (hys : ∀ y ∈ ys.head?, p y = false) :
    (xs ++ ys).takeWhile p = xs := by
  rcases ys with _ | ⟨y, ys⟩
  · rw [List.append_nil, List.takeWhile_eq_self_iff.2 hxs]
  · rw [takeWhile_append_stop (hys y rfl), List.takeWhile_eq_self_iff.2 hxs]

/-! ## Blank lines around a text -/

theorem isBlankLine_joinLines {ls : List (List Char)} (h : ∀ l ∈ ls, isBlankLine l = true) :
    isBlankLine (joinLines ls) = true := by
  rw [isBlankLine_iff]
  intro c hc
  obtain rfl | ⟨l, hl, hc⟩ := mem_joinLines hc
  · exact isBlank_newline
  · exact isBlankLine_iff.1 (h l hl) c hc

theorem trim_joinLines_dropWhile (ls : List (List Char)) :
    trim (joinLines (ls.dropWhile isBlankLine)) = trim (joinLines ls) := by
  induction ls with
  | nil => rfl
  | cons l ls ih =>
    by_cases hl : isBlankLine l = true
    · rw [List.dropWhile_cons_of_pos hl, ih]
      rcases ls with _ | ⟨k, ls⟩
      · exact (trim_eq_nil.2 (by rwa [joinLines, List.intercalate_singleton])).symm
      · have hbreak : isBlankLine (l ++ ['\n']) = true := by
          rw [isBlankLine, List.all_append, ← isBlankLine, hl]
          rfl
        rw [joinLines, joinLines, List.intercalate_cons_cons, trim_append_of_blank_left hbreak]
    · rw [List.dropWhile_cons_of_neg hl]

theorem trim_joinLines_takeToLast (ls : List (List Char)) :
    trim (joinLines (takeToLast (!isBlankLine ·) ls)) = trim (joinLines ls) := by
  obtain ⟨rest, hls, hrest⟩ := exists_eq_takeToLast_append (!isBlankLine ·) ls
  have hblank : ∀ l ∈ rest, isBlankLine l = true := fun l hl => by simpa using hrest l hl
  conv_rhs => rw [hls]
  generalize takeToLast (!isBlankLine ·) ls = kept
  rcases rest with _ | ⟨l, rest⟩
  · rw [List.append_nil]
  · rcases kept with _ | ⟨k, kept⟩
    · exact (trim_eq_nil.2 (isBlankLine_joinLines hblank)).symm
    · have hbreak : isBlankLine (['\n'] ++ joinLines (l :: rest)) = true := by
        rw [isBlankLine, List.all_append, ← isBlankLine, ← isBlankLine, isBlankLine_joinLines hblank]
        rfl
      unfold joinLines at hbreak ⊢
      rw [intercalate_append_cons (List.cons_ne_nil k kept), List.append_assoc,
        trim_append_of_blank_right _ hbreak]

/-! ## Searching -/

theorem eq_append_of_dropFront? {front cs rest : List Char}
    (h : dropFront? front cs = some rest) : cs = front ++ rest := by
  fun_induction dropFront? front cs with
  | case1 cs =>
    cases h
    rfl
  | case2 => cases h
  | case3 p ps cs ih => rw [ih h, List.cons_append]
  | case4 => cases h

theorem dropFront?_append (front cs : List Char) : dropFront? front (front ++ cs) = some cs := by
  induction front with
  | nil => rfl
  | cons c front ih => rw [List.cons_append, dropFront?, if_pos rfl, ih]

/-- What a text starts with does not depend on what follows a character that it does not start with. -/
theorem dropFront?_append_cons {front : List Char} {sep : Char} (h : sep ∉ front)
    (cs ds : List Char) :
    dropFront? front (cs ++ sep :: ds) = (dropFront? front cs).map (· ++ sep :: ds) := by
  fun_induction dropFront? front cs with
  | case1 cs => rfl
  | case2 p ps =>
    have hne : p ≠ sep := by
      rintro rfl
      exact h List.mem_cons_self
    rw [List.nil_append, dropFront?, if_neg hne]
    rfl
  | case3 ps c cs ih =>
    rw [List.cons_append, dropFront?, if_pos rfl]
    exact ih fun hmem => h (List.mem_cons_of_mem c hmem)
  | case4 p ps c cs hne =>
    rw [List.cons_append, dropFront?, if_neg hne]
    rfl

theorem isSome_dropFront? (front cs : List Char) : (dropFront? front cs).isSome ↔ front <+: cs := by
  fun_induction dropFront? front cs with
  | case1 cs => simp
  | case2 => simp
  | case3 p ps cs ih => rw [ih, List.cons_prefix_cons, and_iff_right rfl]
  | case4 p ps c cs hne => simp [List.cons_prefix_cons, hne]

theorem splitOnce_eq_none {sep : Char} {cs : List Char} (h : sep ∉ cs) : splitOnce sep cs = none := by
  induction cs with
  | nil => rfl
  | cons c cs ih =>
    rw [List.mem_cons, not_or] at h
    rw [splitOnce, if_neg (Ne.symm h.1), ih h.2]
    rfl

theorem splitOnce_append {sep : Char} {before : List Char} (h : sep ∉ before) (after : List Char) :
    splitOnce sep (before ++ sep :: after) = some (before, after) := by
  induction before with
  | nil => rw [List.nil_append, splitOnce, if_pos rfl]
  | cons c cs ih =>
    rw [List.mem_cons, not_or] at h
    rw [List.cons_append, splitOnce, if_neg (Ne.symm h.1), ih h.2]
    rfl

theorem eq_append_of_splitOnce {sep : Char} {cs before after : List Char}
    (h : splitOnce sep cs = some (before, after)) : cs = before ++ sep :: after := by
  by_cases hsep : sep ∈ cs
  · obtain ⟨before', after', rfl, hbefore'⟩ := List.eq_append_cons_of_mem hsep
    rw [splitOnce_append hbefore'] at h
    cases h
    rfl
  · rw [splitOnce_eq_none hsep] at h
    cases h

theorem splitLast_append {sep : Char} {after : List Char} (h : sep ∉ after) (before : List Char) :
    splitLast sep (before ++ sep :: after) = some (before, after) := by
  have hreverse : (before ++ sep :: after).reverse = after.reverse ++ sep :: before.reverse := by simp
  unfold splitLast
  rw [hreverse, splitOnce_append (by rwa [List.mem_reverse])]
  simp

end DocPages.Text
