import DocPages.Dialect.Escape
import DocPages.Proofs.Markdown.Paragraph

/-!
# Escaped text is displayed as it was written

With a backslash in front of every metacharacter a line of text starts no block, so it is a paragraph
(`textLine_escapeRaw`). The scan of this paragraph meets text and named character references only
(`shows_run_escapeRaw`): of all characters that mark something inside of a line, just the ampersand is no
metacharacter. A reader sees the text with its named references replaced (`plainText_escapeRaw`).
-/

namespace DocPages.Markdown

open Text Dialect

variable {c d : Char} {cs rest : List Char}

/-! ## Metacharacters -/

theorem isMeta_iff : isMeta c = true ↔ c ∈ metacharacters :=
  List.contains_iff_mem

theorem isAsciiPunct_of_isMeta (h : isMeta c = true) : isAsciiPunct c = true := by
  have hall : metacharacters.all isAsciiPunct = true := by decide
  exact List.all_eq_true.1 hall c (isMeta_iff.1 h)

theorem isAlphanum_of_isMeta (h : isMeta c = true) : c.isAlphanum = false := by
  have hany : metacharacters.any Char.isAlphanum = false := by decide
  simpa using List.any_eq_false.1 hany c (isMeta_iff.1 h)

theorem ne_of_not_isMeta {m : Char} (hc : isMeta c = false) (hm : isMeta m = true) : c ≠ m := by
  rintro rfl
  rw [hm] at hc
  cases hc

/-! ## Escaped texts -/

theorem escapeRaw_cons_of_isMeta (h : isMeta c = true) (cs : List Char) :
    escapeRaw (c :: cs) = '\\' :: c :: escapeRaw cs := by
  simp [escapeRaw, escapeChar, h]

theorem escapeRaw_cons_of_not_isMeta (h : isMeta c = false) (cs : List Char) :
    escapeRaw (c :: cs) = c :: escapeRaw cs := by
  simp [escapeRaw, escapeChar, h]

theorem escapeRaw_append (a b : List Char) : escapeRaw (a ++ b) = escapeRaw a ++ escapeRaw b :=
  List.flatMap_append

theorem mem_of_mem_escapeRaw (h : d ∈ escapeRaw cs) : d = '\\' ∨ d ∈ cs := by
  obtain ⟨c, hc, hd⟩ := List.mem_flatMap.1 h
  unfold escapeChar at hd
  split_ifs at hd
  · rcases List.mem_cons.1 hd with rfl | hd
    · exact Or.inl rfl
    · rw [List.mem_singleton.1 hd]
      exact Or.inr hc
  · rw [List.mem_singleton.1 hd]
    exact Or.inr hc

/-- The only metacharacter at the start of an escaped text is a backslash. -/
theorem escapeRaw_start (c : Char) (cs : List Char) :
    (∃ rest, escapeRaw (c :: cs) = '\\' :: rest) ∨
      isMeta c = false ∧ ∃ rest, escapeRaw (c :: cs) = c :: rest := by
  cases hc : isMeta c with
  | true => exact Or.inl ⟨_, escapeRaw_cons_of_isMeta hc cs⟩
  | false => exact Or.inr ⟨rfl, _, escapeRaw_cons_of_not_isMeta hc cs⟩

theorem getLast?_escapeRaw (cs : List Char) : (escapeRaw cs).getLast? = cs.getLast? := by
  rcases List.eq_nil_or_concat cs with rfl | ⟨front, c, rfl⟩
  · rfl
  · have hlast : (escapeChar c).getLast? = some c := by
      unfold escapeChar
      split_ifs <;> rfl
    have hsingle : escapeRaw [c] = escapeChar c := by simp [escapeRaw]
    rw [List.concat_eq_append, escapeRaw_append, hsingle, List.getLast?_append, hlast,
      List.getLast?_append]
    rfl

section

variable {p : Char → Bool} (hp : ∀ c, isMeta c = true → p c = false)

include hp

theorem takeWhile_escapeRaw (cs : List Char) : (escapeRaw cs).takeWhile p = cs.takeWhile p := by
  have hslash : p '\\' = false := hp '\\' (by decide)
  induction cs with
  | nil => rfl
  | cons c cs ih =>
    cases hc : isMeta c with
    | true => simp [escapeRaw_cons_of_isMeta hc, hslash, hp c hc]
    | false => simp [escapeRaw_cons_of_not_isMeta hc, List.takeWhile_cons, ih]

theorem dropWhile_escapeRaw (cs : List Char) :
    (escapeRaw cs).dropWhile p = escapeRaw (cs.dropWhile p) := by
  have hslash : p '\\' = false := hp '\\' (by decide)
  induction cs with
  | nil => rfl
  | cons c cs ih =>
    cases hc : isMeta c with
    | true => simp [escapeRaw_cons_of_isMeta hc, hslash, hp c hc]
    | false =>
      rw [escapeRaw_cons_of_not_isMeta hc, List.dropWhile_cons, List.dropWhile_cons, ih]
      split_ifs
      · rfl
      · rw [escapeRaw_cons_of_not_isMeta hc]

end

/-! ## The line -/

/-- Escaped text of one line starts no block. -/
theorem textLine_escapeRaw (hc : isBlank c = false) (hfeed : '\n' ∉ c :: cs) (hreturn : '\r' ∉ c :: cs) :
    TextLine (escapeRaw (c :: cs)) where
  oneLine := by
    refine ⟨fun h => ?_, fun h => ?_⟩
    · rcases mem_of_mem_escapeRaw h with h | h
      · exact absurd h (by decide)
      · exact hfeed h
    · rcases mem_of_mem_escapeRaw h with h | h
      · exact absurd h (by decide)
      · exact hreturn h
  start := by
    have hmarks : blockMarks.all isMeta = true := by decide
    obtain ⟨rest, h⟩ | ⟨hmeta, rest, h⟩ := escapeRaw_start c cs
    · exact ⟨'\\', rest, h, by decide, by decide⟩
    · refine ⟨c, rest, h, hc, fun hmark => ?_⟩
      rw [List.all_eq_true.1 hmarks c hmark] at hmeta
      cases hmeta
  unnumbered := by
    intro d hd
    have hdigit : ∀ m, isMeta m = true → m.isDigit = false := by
      intro m hm
      have halnum := isAlphanum_of_isMeta hm
      simp only [Char.isAlphanum, Bool.or_eq_false_iff] at halnum
      exact halnum.2
    rw [dropWhile_escapeRaw hdigit] at hd
    cases hrest : (c :: cs).dropWhile Char.isDigit with
    | nil =>
      rw [hrest] at hd
      cases hd
    | cons e es =>
      rw [hrest] at hd
      obtain ⟨rest, h⟩ | ⟨hmeta, rest, h⟩ := escapeRaw_start e es
      · rw [h] at hd
        cases hd
        decide
      · rw [h] at hd
        cases hd
        exact ⟨ne_of_not_isMeta hmeta (by decide), ne_of_not_isMeta hmeta (by decide)⟩

/-- Nothing is dropped at the end of a line that does not end with white space. -/
theorem trimLineEnds_of_oneLine {l : List Char} (hfeed : '\n' ∉ l)
    (hlast : ∀ c, l.getLast? = some c → isBlank c = false) : trimLineEnds l = l := by
  have hkeep : dropEndWhile (fun c => c == ' ' || c == '\t') l = l := by
    rcases List.eq_nil_or_concat l with rfl | ⟨front, c, rfl⟩
    · rfl
    · have hblank : isBlank c = false := hlast c (by simp)
      have hspace : c ≠ ' ' := ne_of_isBlank (by decide) hblank
      have htab : c ≠ '\t' := ne_of_isBlank (by decide) hblank
      simp [dropEndWhile, hspace, htab]
  unfold trimLineEnds
  rw [lines_of_oneLine hfeed]
  simp [hkeep, joinLines]

/-! ## Named references -/

theorem eq_append_of_upToSemicolon {p : Char → Bool} {name : List Char}
    (h : upToSemicolon p cs = some (name, rest)) : cs = name ++ ';' :: rest := by
  unfold upToSemicolon at h
  split at h
  · rename_i hdrop
    cases h
    rw [← hdrop, List.takeWhile_append_dropWhile]
  · cases h

theorem eq_append_of_namedReference {chars : List Char} (h : namedReference? cs = some (chars, rest)) :
    ∃ name, cs = name ++ ';' :: rest := by
  unfold namedReference? at h
  split at h
  · rename_i name after hname
    obtain ⟨_, -, heq⟩ := Option.map_eq_some_iff.1 h
    cases heq
    exact ⟨name, eq_append_of_upToSemicolon hname⟩
  · cases h

/-- A text with its named references replaced by what they stand for. -/
def expandReferences : List Char → List Char
  | [] => []
  | c :: cs =>
    if c = '&' then
      match _ : namedReference? cs with
      | some (chars, rest) => chars ++ expandReferences rest
      | none => c :: expandReferences cs
    else c :: expandReferences cs
termination_by cs => cs.length
decreasing_by
  · rename_i h
    obtain ⟨name, rfl⟩ := eq_append_of_namedReference h
    simp only [List.length_cons, List.length_append]
    omega
  · simp
  · simp

/-- Whether there is an ampersand with a name of the table and a semicolon after it. -/
def hasReference : List Char → Bool
  | [] => false
  | c :: cs => (c == '&' && (namedReference? cs).isSome) || hasReference cs

theorem expandReferences_of_not_hasReference (h : hasReference cs = false) :
    expandReferences cs = cs := by
  fun_induction expandReferences cs with
  | case1 => rfl
  | case2 cs chars rest hname _ => simp [hasReference, hname] at h
  | case3 _ _ ih | case4 _ _ _ ih =>
    rw [hasReference, Bool.or_eq_false_iff] at h
    rw [ih h.2]

theorem upToSemicolon_escapeRaw {p : Char → Bool} (hp : ∀ c, isMeta c = true → p c = false)
    (cs : List Char) :
    upToSemicolon p (escapeRaw cs) = (upToSemicolon p cs).map fun r => (r.1, escapeRaw r.2) := by
  unfold upToSemicolon
  rw [takeWhile_escapeRaw hp, dropWhile_escapeRaw hp]
  cases cs.dropWhile p with
  | nil => rfl
  | cons c rest =>
    by_cases hc : c = ';'
    · subst hc
      rw [escapeRaw_cons_of_not_isMeta (by decide)]
      rfl
    · obtain ⟨after, h⟩ | ⟨-, after, h⟩ := escapeRaw_start c rest <;> rw [h] <;> simp [hc]

theorem namedReference?_escapeRaw (cs : List Char) :
    namedReference? (escapeRaw cs) = (namedReference? cs).map fun r => (r.1, escapeRaw r.2) := by
  unfold namedReference?
  rw [upToSemicolon_escapeRaw fun c => isAlphanum_of_isMeta]
  cases upToSemicolon Char.isAlphanum cs with
  | none => rfl
  | some r => simp [Option.map_map, Function.comp_def]

theorem entity?_of_not_numbered (h : ∀ rest, cs ≠ '#' :: rest) : entity? cs = namedReference? cs := by
  unfold entity?
  split
  · exact absurd rfl (h _)
  · exact absurd rfl (h _)
  · exact absurd rfl (h _)
  · rfl

/-- An escaped text has the references of the text that have a name, and none that have a number, since
the number sign is escaped. -/
theorem entity?_escapeRaw (cs : List Char) :
    entity? (escapeRaw cs) = (namedReference? cs).map fun r => (r.1, escapeRaw r.2) := by
  rw [← namedReference?_escapeRaw]
  apply entity?_of_not_numbered
  intro rest hsign
  cases cs with
  | nil => cases hsign
  | cons c cs =>
    obtain ⟨after, h⟩ | ⟨hmeta, after, h⟩ := escapeRaw_start c cs
    · rw [h] at hsign
      cases hsign
    · rw [h] at hsign
      cases hsign
      exact absurd hmeta (by decide)

/-! ## Scanning -/

variable {s : Scan} {shown : List Char} {labels : List (List Char)} {prev : Char} {fuel : ℕ}

/-- Nothing but text has been scanned so far, and this is the text. -/
structure Scan.Shows (s : Scan) (shown : List Char) : Prop where
  noBrackets : s.brackets = []
  texts : ∃ texts : List (List Char),
    s.fragments = texts.reverse.map (fun t => .piece (.text t)) ∧ texts.flatten = shown

theorem Scan.shows_nil : Scan.Shows {} [] :=
  ⟨rfl, [], rfl, rfl⟩

theorem Scan.Shows.addText (h : s.Shows shown) (cs : List Char) :
    (s.addText cs).Shows (shown ++ cs) := by
  unfold Scan.addText
  split_ifs with hcs
  · rw [List.isEmpty_iff.1 hcs, List.append_nil]
    exact h
  · obtain ⟨hbrackets, texts, hfragments, rfl⟩ := h
    refine ⟨hbrackets, texts ++ [cs], ?_, by simp⟩
    simp [Scan.add, hfragments]

theorem step_escaped (h : isMeta c = true) :
    s.step labels prev '\\' (c :: cs) = (s.addText [c], cs) := by
  have hfeed : c ≠ '\n' := by
    rintro rfl
    exact absurd h (by decide)
  simp [Scan.step, isAsciiPunct_of_isMeta h]

theorem step_of_not_isMeta (h : isMeta c = false) (hfeed : c ≠ '\n') (hamp : c ≠ '&') :
    s.step labels prev c cs = (s.addText [c], cs) := by
  have hne (m : Char) (hm : isMeta m = true) : c ≠ m := ne_of_not_isMeta h hm
  simp [Scan.step, hfeed, hamp, hne '\\' (by decide), hne '\x60' (by decide), hne '<' (by decide),
    hne '!' (by decide), hne '[' (by decide), hne ']' (by decide), hne '*' (by decide),
    hne '_' (by decide), hne '~' (by decide)]

theorem step_ampersand_of_some {chars : List Char} (h : entity? cs = some (chars, rest)) :
    s.step labels prev '&' cs = (s.addText chars, rest) := by
  simp [Scan.step, h]

theorem step_ampersand_of_none (h : entity? cs = none) :
    s.step labels prev '&' cs = (s.addText ['&'], cs) := by
  simp [Scan.step, h]

/-- A run shows what the rest of it shows after the first step, given enough fuel. -/
theorem shows_run_of_step {s' : Scan} (hstep : s.step labels prev c cs = (s', rest))
    (hfuel : (c :: cs).length ≤ fuel) (hrest : rest.length ≤ cs.length)
    (h : ∀ fuel prev, rest.length ≤ fuel → (Scan.run labels fuel prev rest s').Shows shown) :
    (Scan.run labels fuel prev (c :: cs) s).Shows shown := by
  cases fuel with
  | zero => cases hfuel
  | succ fuel =>
    rw [Scan.run, hstep]
    exact h _ _ (hrest.trans (Nat.le_of_succ_le_succ hfuel))

/-- The scan of an escaped text meets text and named references only. -/
theorem shows_run_escapeRaw (hfeed : '\n' ∉ cs) (hs : s.Shows shown)
    (hfuel : (escapeRaw cs).length ≤ fuel) :
    (Scan.run labels fuel prev (escapeRaw cs) s).Shows (shown ++ expandReferences cs) := by
  fun_induction expandReferences cs generalizing fuel prev s shown with
  | case1 =>
    rw [List.append_nil]
    cases fuel <;> exact hs
  | case2 cs chars rest hname ih =>
    have hentity : entity? (escapeRaw cs) = some (chars, escapeRaw rest) := by
      rw [entity?_escapeRaw, hname]
      rfl
    obtain ⟨name, rfl⟩ := eq_append_of_namedReference hname
    rw [escapeRaw_cons_of_not_isMeta (by decide)] at hfuel ⊢
    refine shows_run_of_step (step_ampersand_of_some hentity) hfuel ?_ fun fuel prev hfuel => ?_
    · rw [escapeRaw_append, escapeRaw_cons_of_not_isMeta (by decide)]
      simp only [List.length_append, List.length_cons]
      omega
    · rw [← List.append_assoc]
      exact ih (by simp_all) (hs.addText chars) hfuel
  | case3 cs hname ih =>
    have hentity : entity? (escapeRaw cs) = none := by
      rw [entity?_escapeRaw, hname]
      rfl
    rw [escapeRaw_cons_of_not_isMeta (by decide)] at hfuel ⊢
    refine shows_run_of_step (step_ampersand_of_none hentity) hfuel le_rfl fun fuel prev hfuel => ?_
    rw [List.append_cons]
    exact ih (fun h => hfeed (List.mem_cons_of_mem _ h)) (hs.addText _) hfuel
  | case4 c cs hamp ih =>
    have hrest (fuel : ℕ) (prev : Char) (hfuel : (escapeRaw cs).length ≤ fuel) :
        (Scan.run labels fuel prev (escapeRaw cs) (s.addText [c])).Shows
          (shown ++ c :: expandReferences cs) := by
      rw [List.append_cons]
      exact ih (fun h => hfeed (List.mem_cons_of_mem _ h)) (hs.addText _) hfuel
    cases hc : isMeta c with
    | true =>
      rw [escapeRaw_cons_of_isMeta hc] at hfuel ⊢
      exact shows_run_of_step (step_escaped hc) hfuel (by simp) hrest
    | false =>
      have hne : c ≠ '\n' := by
        rintro rfl
        exact hfeed List.mem_cons_self
      rw [escapeRaw_cons_of_not_isMeta hc] at hfuel ⊢
      exact shows_run_of_step (step_of_not_isMeta hc hne hamp) hfuel le_rfl hrest

/-! ## What a reader sees -/

theorem pairEmphasis_texts (texts : List (List Char)) :
    pairEmphasis (texts.map fun t => .piece (.text t)) = texts.map .text := by
  have hfold (base : List Piece) :
      (texts.map fun t => Fragment.piece (.text t)).foldl Openers.take ⟨[], base⟩ =
        ⟨[], (texts.map Piece.text).reverse ++ base⟩ := by
    induction texts generalizing base with
    | nil => rfl
    | cons t texts ih =>
      rw [List.map_cons, List.foldl_cons]
      show List.foldl Openers.take ⟨[], .text t :: base⟩ _ = _
      rw [ih]
      simp
  unfold pairEmphasis
  rw [hfold]
  simp [Openers.pieces, Nat.repeat]

theorem write_texts (texts : List (List Char)) (started : Bool) :
    write started false (texts.map Event.text ++ [.blockEnd]) = texts.flatten := by
  induction texts generalizing started with
  | nil => rfl
  | cons t texts ih => simp [write, ih]

theorem write_of_shows (h : s.Shows shown) :
    write false false ((pairEmphasis s.finish).map Piece.event ++ [.blockEnd]) = shown := by
  obtain ⟨hbrackets, texts, hfragments, rfl⟩ := h
  have hfinish : s.finish = texts.map fun t => .piece (.text t) := by
    simp [Scan.finish, hbrackets, hfragments, Nat.repeat]
  have hevents : (texts.map Piece.text).map Piece.event = texts.map Event.text := by
    rw [List.map_map]
    rfl
  rw [hfinish, pairEmphasis_texts, hevents, write_texts]

/-- Whether this is one of the control characters of Unicode. -/
def isControl (c : Char) : Bool :=
  c.toNat < 0x20 || (0x7F ≤ c.toNat && c.toNat < 0xA0)

/-- Text that can stand on a line of its own: there is some, without control characters and without
white space around it. -/
structure Inscription (t : List Char) : Prop where
  nonempty : t ≠ []
  printed : t.any isControl = false
  trimmed : trim t = t

namespace Inscription

variable {t : List Char}

theorem notMem_of_isControl (h : Inscription t) (hc : isControl c = true) : c ∉ t := by
  intro hmem
  exact List.any_eq_false.1 h.printed c hmem hc

/-- Nothing is trimmed at either end. -/
theorem trim_ends (h : Inscription t) : trimStart t = t ∧ trimEnd t = t := by
  have hstart : trimStart t <:+ t := List.dropWhile_suffix _
  have hend : trim t <+: trimStart t := by
    have hsuffix : (trimStart t).reverse.dropWhile isBlank <:+ (trimStart t).reverse :=
      List.dropWhile_suffix _
    rwa [← List.reverse_prefix, List.reverse_reverse] at hsuffix
  rw [h.trimmed] at hend
  have heq : trimStart t = t := hstart.eq_of_length_le hend.length_le
  refine ⟨heq, ?_⟩
  have htrim := h.trimmed
  rwa [trim, heq] at htrim

theorem isBlank_head (h : Inscription (c :: cs)) : isBlank c = false := by
  have hstart := h.trim_ends.1
  rw [trimStart, List.dropWhile_eq_self_iff] at hstart
  simpa using hstart

theorem isBlank_getLast (h : Inscription t) (hc : t.getLast? = some c) : isBlank c = false := by
  obtain ⟨front, rfl⟩ := List.getLast?_eq_some_iff.1 hc
  have hend := h.trim_ends.2
  rw [trimEnd, dropEndWhile, List.reverse_eq_iff, List.dropWhile_eq_self_iff] at hend
  simpa using hend

end Inscription

/-- Escaped text is displayed with its named references replaced, so as it is if it has none. -/
theorem plainText_escapeRaw {t : List Char} (h : Inscription t) :
    plainText (escapeRaw t) = expandReferences t ∧
      (hasReference t = false → plainText (escapeRaw t) = t) := by
  have hfeed : '\n' ∉ t := h.notMem_of_isControl (by decide)
  have hreturn : '\r' ∉ t := h.notMem_of_isControl (by decide)
  have hline : TextLine (escapeRaw t) := by
    obtain ⟨c, cs, rfl⟩ := List.exists_cons_of_ne_nil h.nonempty
    exact textLine_escapeRaw h.isBlank_head hfeed hreturn
  have htrim : trimLineEnds (escapeRaw t) = escapeRaw t := by
    refine trimLineEnds_of_oneLine hline.oneLine.1 fun c hc => h.isBlank_getLast ?_
    rwa [getLast?_escapeRaw] at hc
  have hshown : plainText (escapeRaw t) = expandReferences t := by
    rw [plainText_of_textLine hline, inlinePieces, htrim]
    exact write_of_shows (shows_run_escapeRaw hfeed Scan.shows_nil le_rfl)
  refine ⟨hshown, fun hnone => ?_⟩
  rw [hshown, expandReferences_of_not_hasReference hnone]

/-- Marks of blocks, emphasis, strikethrough, code, links, images, HTML and numbered references. -/
theorem plainText_escapeRaw_marks :
    plainText (escapeRaw "1. *a* __b__ ~~c~~ \x60d\x60 [e](f) ![g] <h> \\# \x7bi\x7d & &#65; Q&A".toList) =
      "1. *a* __b__ ~~c~~ \x60d\x60 [e](f) ![g] <h> \\# \x7bi\x7d & &#65; Q&A".toList :=
  (plainText_escapeRaw ⟨by decide, by decide, by decide⟩).2 (by decide)

/-- The ampersand is no metacharacter, so a name after it is still read as a reference. -/
theorem plainText_escapeRaw_ampersandName :
    Inscription "&AMP;".toList ∧ plainText (escapeRaw "&AMP;".toList) ≠ "&AMP;".toList :=
  ⟨⟨by decide, by decide, by decide⟩, by decide +kernel⟩

end DocPages.Markdown
