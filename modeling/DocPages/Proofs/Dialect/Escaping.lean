import DocPages.Dialect.Escape
import DocPages.Proofs.Text.Lines
import DocPages.Proofs.Text.Url

/-!
# Unescaping undoes escaping

Escaped text is read back character by character (`unescape_escapeChar_append`), and so is text that
was copied without a backslash (`unescape_cons`). A text with URLs mixes the two: the URLs are copied
up to where they are trimmed, and all else is escaped. The decoder stays in step across every boundary
between them, so that it gives the text back as long as no copied URL has a backslash
(`unescape_escape`).
-/

namespace DocPages.Dialect

open Text

/-! ## Copied URLs -/

/-- The URLs of a text behind `prev`, from left to right and not yet trimmed. No URL starts among the
first `found` characters, which belong to the URL that was found last. -/
def urlsFrom : Option Char → ℕ → List Char → List (List Char)
  | _, _, [] => []
  | _, found + 1, c :: cs => urlsFrom (some c) found cs
  | prev, 0, c :: cs =>
    match urlAt? prev (c :: cs) with
    | some url => url :: urlsFrom (some c) (url.length - 1) cs
    | none => urlsFrom (some c) 0 cs

/-- The URLs of a text that escaping leaves as they are. -/
def copiedUrls (text : String) : List (List Char) :=
  (urlsFrom none 0 text.toList).map trimUrl

theorem urlAfter?_isPrefix {start rest url : List Char}
    (h : urlAfter? start (some rest) = some url) : url <+: start ++ rest := by
  unfold urlAfter? at h
  simp only at h
  split at h
  · cases h
  · cases h
    exact (List.prefix_append_right_inj start).2 (List.takeWhile_prefix _)

theorem urlAfter?_eq_some {start : List Char} {rest : Option (List Char)} {url : List Char}
    (h : urlAfter? start rest = some url) : ∃ cs, rest = some cs ∧ url <+: start ++ cs := by
  cases rest with
  | none => cases h
  | some cs => exact ⟨cs, rfl, urlAfter?_isPrefix h⟩

/-- A URL stands at the start of the text it is read from. -/
theorem urlAt?_isPrefix {prev : Option Char} {cs url : List Char} (h : urlAt? prev cs = some url) :
    url <+: cs := by
  unfold urlAt? at h
  split at h
  · cases h
  · simp only at h
    split at h
    · rename_i found hfound
      cases h
      obtain ⟨rest, hrest, hurl⟩ := urlAfter?_eq_some hfound
      have hscheme := List.prefix_iff_eq_append.1 (List.takeWhile_prefix (l := cs) isSchemeChar)
      rwa [List.append_assoc, ← eq_append_of_dropFront? hrest, hscheme] at hurl
    · obtain ⟨rest, hrest, hurl⟩ := urlAfter?_eq_some h
      rwa [← eq_append_of_dropFront? hrest] at hurl

theorem isAlpha_of_urlAt? {prev : Option Char} {c : Char} {cs url : List Char}
    (h : urlAt? prev (c :: cs) = some url) : c.isAlpha = true := by
  unfold urlAt? at h
  split at h
  · cases h
  · rename_i hstart
    have hstarts : (prev.map isWordChar).getD false = false ∧ c.isAlpha = true := by
      simpa using hstart
    exact hstarts.2

/-- The part of a URL that is copied stands at the start of the text. -/
theorem mem_trimUrl_of_urlAt? {prev : Option Char} {c x : Char} {cs url : List Char}
    (h : urlAt? prev (c :: cs) = some url) (hx : x ∈ cs.take ((trimUrl url).length - 1)) :
    x ∈ trimUrl url := by
  have hprefix : trimUrl url <+: c :: cs := (trimUrl_isPrefix url).trans (urlAt?_isPrefix h)
  rw [List.prefix_iff_eq_take.1 hprefix]
  cases hlength : (trimUrl url).length with
  | zero =>
    rw [hlength] at hx
    cases hx
  | succ n =>
    rw [hlength, Nat.add_sub_cancel] at hx
    exact List.mem_cons_of_mem c hx

/-! ## Reading back -/

theorem isMeta_backslash : isMeta '\\' = true := by decide

theorem unescape_cons {c : Char} (h : c ≠ '\\') (cs : List Char) :
    unescape (c :: cs) = c :: unescape cs := by
  rw [unescape]
  rintro d ds rfl
  exact absurd rfl h

/-- A character is read back whatever follows it. -/
theorem unescape_escapeChar_append (c : Char) (cs : List Char) :
    unescape (escapeChar c ++ cs) = c :: unescape cs := by
  unfold escapeChar
  by_cases hc : isMeta c
  · rw [if_pos hc]
    show unescape ('\\' :: c :: cs) = c :: unescape cs
    rw [unescape, if_pos hc]
  · rw [if_neg hc]
    refine unescape_cons ?_ cs
    rintro rfl
    exact hc isMeta_backslash

theorem unescape_escapeRaw (cs : List Char) : unescape (escapeRaw cs) = cs := by
  unfold escapeRaw
  induction cs with
  | nil => rfl
  | cons c cs ih => rw [List.flatMap_cons, unescape_escapeChar_append, ih]

/-- What escaping writes is read back from every point on. The characters that are still to be copied
have no backslash, and neither have the URLs that follow. -/
theorem unescape_escapeFrom (prev : Option Char) (keep found : ℕ) (cs : List Char)
    (hle : keep ≤ found) (hkeep : '\\' ∉ cs.take keep)
    (hurls : ∀ url ∈ urlsFrom prev found cs, '\\' ∉ trimUrl url) :
    unescape (escapeFrom prev keep found cs) = cs := by
  fun_induction escapeFrom prev keep found cs with
  | case1 => rfl
  | case2 prev keep found c cs ih =>
    obtain ⟨more, rfl⟩ : ∃ more, found = more + 1 := ⟨found - 1, by omega⟩
    rw [List.take_succ_cons, List.mem_cons, not_or] at hkeep
    rw [unescape_cons (Ne.symm hkeep.1), ih (by omega) hkeep.2 hurls]
  | case3 prev found c cs ih =>
    rw [unescape_escapeChar_append, ih (Nat.zero_le _) (by simp) hurls]
  | case4 prev c cs url hurl ih =>
    rw [urlsFrom, hurl, List.forall_mem_cons] at hurls
    have hc : c ≠ '\\' := by
      rintro rfl
      exact absurd (isAlpha_of_urlAt? hurl) (by decide)
    have hlength : (trimUrl url).length ≤ url.length := (trimUrl_isPrefix url).length_le
    rw [unescape_cons hc, ih (by omega) (fun h => hurls.1 (mem_trimUrl_of_urlAt? hurl h)) hurls.2]
  | case5 prev c cs hurl ih =>
    rw [urlsFrom, hurl] at hurls
    rw [unescape_escapeChar_append, ih (Nat.le_refl 0) (by simp) hurls]

/-- **Unescaping undoes escaping**, for texts in which all is escaped and for texts in which the URLs are
copied, whatever their number and position, if no copied URL has a backslash. -/
theorem unescape_escape (text : String) :
    onChars unescape (onChars escapeRaw text) = text ∧
      ((∀ url ∈ copiedUrls text, '\\' ∉ url) → onChars unescape (escape text) = text) := by
  refine ⟨?_, fun h => ?_⟩
  · unfold onChars
    rw [String.toList_ofList, unescape_escapeRaw, String.ofList_toList]
  · have hurls : ∀ url ∈ urlsFrom none 0 text.toList, '\\' ∉ trimUrl url :=
      fun url hurl => h _ (List.mem_map_of_mem hurl)
    have hread : unescape (escapeChars text.toList) = text.toList :=
      unescape_escapeFrom none 0 0 text.toList (Nat.le_refl 0) (by simp) hurls
    unfold escape onChars
    rw [String.toList_ofList, hread, String.ofList_toList]

/-- Two URLs, the first of which is trimmed, between marks that are escaped. -/
def linkedText : String :=
  "\\*see* (https://e.org/a_b*c). or mailto:me@e.org!?"

theorem unescape_escape_linkedText :
    copiedUrls linkedText = ["https://e.org/a_b*c".toList, "mailto:me@e.org".toList] ∧
      onChars unescape (escape linkedText) = linkedText := by
  have hurls : copiedUrls linkedText = ["https://e.org/a_b*c".toList, "mailto:me@e.org".toList] := by
    decide +kernel
  refine ⟨hurls, (unescape_escape linkedText).2 ?_⟩
  rw [hurls]
  decide

-- a backslash inside of a copied URL is taken for an escape
example : onChars unescape (escape "http://a\\*b") = "http://a*b" := by decide +kernel

end DocPages.Dialect
