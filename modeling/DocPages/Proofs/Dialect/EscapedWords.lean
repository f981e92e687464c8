import DocPages.Proofs.Dialect.Escaping
import DocPages.Proofs.Text.Blank
import DocPages.Proofs.Text.Words

/-!
# Escaping word by word

White space separates what is escaped before it from what is escaped after it, so a text is escaped word by
word (`escape_words`).

1. White space is in no scheme and in no URL, so the URL at some place is the same whatever follows the
   next white space (`urlAt?_append_blank`).
2. White space is no part of a word, so a URL can start after it just as at the start of a text
   (`escapeFrom_of_isBlank`).
3. The scan counts what is left of the URL that it found last. The URL ends before the white space, so
   nothing is left of it there (`escapeFrom_append_blank`).
-/

namespace DocPages.Dialect

open Text

section Blank

variable {w : Char} (hw : isBlank w = true)
include hw

/-! ## White space and URLs -/

theorem isAlpha_of_isBlank : w.isAlpha = false :=
  forall_isBlank (p := fun c => c.isAlpha = false) (by decide) hw

theorem isSchemeChar_of_isBlank : isSchemeChar w = false :=
  forall_isBlank (p := fun c => isSchemeChar c = false) (by decide) hw

theorem isUrlBody_of_isBlank : isUrlBody w = false := by
  unfold isUrlBody
  rw [hw]
  rfl

/-- White space is written as it is. -/
theorem escapeChar_of_isBlank : escapeChar w = [w] :=
  forall_isBlank (p := fun c => escapeChar c = [c]) (by decide) hw

theorem urlAfter?_append_blank (start : List Char) (rest : Option (List Char)) (b : List Char) :
    urlAfter? start (rest.map (· ++ w :: b)) = urlAfter? start rest := by
  cases rest with
  | none => rfl
  | some cs =>
    unfold urlAfter?
    simp only [Option.map_some, takeWhile_append_stop (isUrlBody_of_isBlank hw)]

/-- A URL does not depend on what follows the next white space. -/
theorem urlAt?_append_blank (prev : Option Char) (cs b : List Char) :
    urlAt? prev (cs ++ w :: b) = urlAt? prev cs := by
  have hslashes : w ∉ "://".toList :=
    forall_isBlank (p := fun c => c ∉ "://".toList) (by decide) hw
  have hmailto : w ∉ "mailto:".toList :=
    forall_isBlank (p := fun c => c ∉ "mailto:".toList) (by decide) hw
  cases cs with
  | nil =>
    have halpha := isAlpha_of_isBlank hw
    simp [urlAt?, halpha]
  | cons c cs =>
    have hscheme : (c :: cs ++ w :: b).takeWhile isSchemeChar = (c :: cs).takeWhile isSchemeChar :=
      takeWhile_append_stop (isSchemeChar_of_isBlank hw) _ _
    have hlength := (List.takeWhile_prefix (l := c :: cs) isSchemeChar).length_le
    unfold urlAt?
    simp only [hscheme, List.drop_append_of_le_length hlength, dropFront?_append_cons hslashes,
      dropFront?_append_cons hmailto, urlAfter?_append_blank hw]
    rfl

/-- After white space the scan goes on as at the start of a text. -/
theorem escapeFrom_of_isBlank (cs : List Char) :
    escapeFrom (some w) 0 0 cs = escapeFrom none 0 0 cs := by
  cases cs with
  | nil => rfl
  | cons c cs =>
    have hurl : urlAt? (some w) (c :: cs) = urlAt? none (c :: cs) := by
      unfold urlAt?
      rw [Option.map_some, isWordChar_of_isBlank hw]
      rfl
    rw [escapeFrom, escapeFrom, hurl]

/-- A scan whose URL ends before the next white space starts anew after it. -/
theorem escapeFrom_append_blank (prev : Option Char) (keep found : ℕ) (a b : List Char)
    (hkeep : keep ≤ a.length) (hfound : found ≤ a.length) :
    escapeFrom prev keep found (a ++ w :: b) =
      escapeFrom prev keep found a ++ w :: escapeFrom none 0 0 b := by
  fun_induction escapeFrom prev keep found a with
  | case1 prev keep found =>
    obtain rfl : keep = 0 := Nat.le_zero.1 hkeep
    obtain rfl : found = 0 := Nat.le_zero.1 hfound
    have hnone : urlAt? prev (w :: b) = none := by
      rw [← List.nil_append (w :: b), urlAt?_append_blank hw]
      unfold urlAt?
      simp
    rw [List.nil_append, List.nil_append, escapeFrom, hnone]
    simp only [escapeChar_of_isBlank hw, escapeFrom_of_isBlank hw]
    rfl
  | case2 prev keep found c cs ih =>
    rw [List.length_cons] at hkeep hfound
    rw [List.cons_append, escapeFrom, ih (by omega) (by omega), List.cons_append]
  | case3 prev found c cs ih =>
    rw [List.length_cons] at hfound
    rw [List.cons_append, escapeFrom, ih (by omega) (by omega), List.append_assoc]
  | case4 prev c cs url hurl ih =>
    have hlength : url.length ≤ (c :: cs).length := (urlAt?_isPrefix hurl).length_le
    have htrim : (trimUrl url).length ≤ url.length := (trimUrl_isPrefix url).length_le
    rw [List.length_cons] at hlength
    rw [← urlAt?_append_blank hw _ _ b, List.cons_append] at hurl
    rw [List.cons_append, escapeFrom, hurl, List.cons_append]
    simp only [ih (by omega) (by omega)]
  | case5 prev c cs hurl ih =>
    rw [← urlAt?_append_blank hw _ _ b, List.cons_append] at hurl
    rw [List.cons_append, escapeFrom, hurl]
    simp only [ih (Nat.zero_le _) (Nat.zero_le _), List.append_assoc]

theorem escapeChars_append_blank (a b : List Char) :
    escapeChars (a ++ w :: b) = escapeChars a ++ w :: escapeChars b :=
  escapeFrom_append_blank hw none 0 0 a b (Nat.zero_le _) (Nat.zero_le _)

end Blank

/-! ## Words -/

/-- **Escaping is local to words.** What stands before and after white space is escaped apart, and so a
text is escaped by escaping each of its words and keeping the white space. -/
theorem escape_words :
    (∀ (a b : String) (w : Char), isBlank w = true →
      escape (a.push w ++ b) = (escape a).push w ++ escape b) ∧
    ∀ text : String,
      (∀ word ∈ words text.toList, ∀ c ∈ word, isBlank c = false) ∧
      weave (words text.toList) (blanks text.toList) = text.toList ∧
      (escape text).toList = weave ((words text.toList).map escapeChars) (blanks text.toList) := by
  refine ⟨?_, ?_⟩
  · intro a b w hw
    apply String.toList_injective
    have hchars := escapeChars_append_blank hw a.toList b.toList
    simpa [escape] using hchars
  · intro text
    refine ⟨fun word hword c => isBlank_of_mem_words hword, weave_words _, ?_⟩
    rw [escape, toList_onChars]
    exact eq_weave_map_words (fun a w b hw => escapeChars_append_blank hw a b) text.toList

/-- A URL that is trimmed stands right before the white space, and another one right after it. -/
theorem escape_words_noBreakSpace :
    isBlank '\u00a0' = true ∧
      escape ("*see* (https://e.org/a_b).".push '\u00a0' ++ "mailto:me_@e.org!") =
        (escape "*see* (https://e.org/a_b).").push '\u00a0' ++ escape "mailto:me_@e.org!" :=
  ⟨by decide, escape_words.1 _ _ _ (by decide)⟩

-- without white space before it the URL would go on with a word
example : escape "_http://a_b" = "\\_http://a\\_b" ∧ escape "_ http://a_b" = "\\_ http://a_b" := by
  decide +kernel

end DocPages.Dialect
