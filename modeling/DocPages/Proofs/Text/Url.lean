import DocPages.Text.Url
import Mathlib.Data.List.Infix

/-!
# Laws of trimming URLs

A URL ends well if its last character is no mark and no closing bracket too many. Trimming cuts a URL at
its end (`trimUrl_isPrefix`) to one that ends well (`endsWell_trimUrl`), and cuts no further than that: it
keeps every prefix that ends well (`isPrefix_trimUrl`). Brackets are counted anew after each cut, but a
prefix is judged by its own brackets alone, so it does not matter how the cuts came to it.
-/

namespace DocPages.Text

/-- A URL that is empty, or whose last character is no mark and no closing bracket that outnumbers its
counterpart. -/
def EndsWell (url : List Char) : Prop :=
  ∀ c ∈ url.getLast?, c ∉ urlTrailing ∧ (c = ')' → url.count ')' ≤ url.count '(') ∧
    (c = ']' → url.count ']' ≤ url.count '[')

theorem endsWell_nil : EndsWell [] := by
  intro c hc
  cases hc

theorem endsWell_concat {c : Char} (hc : c ∉ ')' :: ']' :: urlTrailing) (cs : List Char) :
    EndsWell (cs ++ [c]) := by
  simp only [List.mem_cons, not_or] at hc
  intro d hd
  obtain rfl : c = d := by simpa using hd
  exact ⟨by simpa using hc.2.2, fun h => absurd h hc.1, fun h => absurd h hc.2.1⟩

/-- The test of the last character is the one for ending well. -/
theorem endsWell_reverse_cons {c : Char} {cs : List Char} :
    EndsWell (c :: cs).reverse ↔ isBadEnd (c :: cs) c = false := by
  have hlast : (c :: cs).reverse.getLast? = some c := by simp
  have hfewer (m n : ℕ) : Nat.blt m n = false ↔ n ≤ m := by
    rw [Bool.eq_false_iff, ne_eq, Nat.blt_eq, Nat.not_lt]
  unfold EndsWell isBadEnd
  rw [hlast]
  simp only [Option.mem_some_iff, forall_eq', List.count_reverse, Bool.or_eq_false_iff,
    Bool.and_eq_false_imp, beq_iff_eq, hfewer, List.contains_eq_mem, decide_eq_false_iff_not,
    and_assoc]

/-! ## The loop -/

theorem dropBadEnd_isSuffix (cs : List Char) : dropBadEnd cs <:+ cs := by
  induction cs with
  | nil => exact List.suffix_refl _
  | cons c cs ih =>
    unfold dropBadEnd
    split
    · exact ih.trans (List.suffix_cons c cs)
    · exact List.suffix_refl _

theorem endsWell_dropBadEnd (cs : List Char) : EndsWell (dropBadEnd cs).reverse := by
  induction cs with
  | nil => exact endsWell_nil
  | cons c cs ih =>
    unfold dropBadEnd
    split
    · exact ih
    · rename_i hgood
      exact endsWell_reverse_cons.2 (by simpa using hgood)

/-- A part that ends well is never cut into: while the loop goes on, the URL is longer than that part. -/
theorem isSuffix_dropBadEnd {cs ds : List Char} (hsuffix : ds <:+ cs) (hds : EndsWell ds.reverse) :
    ds <:+ dropBadEnd cs := by
  induction cs with
  | nil => exact hsuffix
  | cons c cs ih =>
    unfold dropBadEnd
    split
    · rename_i hbad
      rcases List.suffix_cons_iff.1 hsuffix with rfl | hsuffix
      · rw [endsWell_reverse_cons, hbad] at hds
        cases hds
      · exact ih hsuffix
    · exact hsuffix

/-! ## Trimming -/

theorem trimUrl_isPrefix (url : List Char) : trimUrl url <+: url := by
  rw [← List.reverse_suffix, trimUrl, List.reverse_reverse]
  exact dropBadEnd_isSuffix url.reverse

theorem endsWell_trimUrl (url : List Char) : EndsWell (trimUrl url) :=
  endsWell_dropBadEnd url.reverse

/-- Trimming keeps every prefix that ends well. -/
theorem isPrefix_trimUrl {front url : List Char} (h : front <+: url) (hends : EndsWell front) :
    front <+: trimUrl url := by
  rw [← List.reverse_suffix, trimUrl, List.reverse_reverse]
  exact isSuffix_dropBadEnd (List.reverse_suffix.2 h) (by rwa [List.reverse_reverse])

theorem trimUrl_eq_self {url : List Char} (h : EndsWell url) : trimUrl url = url :=
  (trimUrl_isPrefix url).eq_of_length_le (isPrefix_trimUrl (List.prefix_refl url) h).length_le

/-- A text that starts with some characters, of which the last one is a good end, still does so when it is
trimmed. -/
theorem concat_isPrefix_trimUrl {c : Char} (hc : c ∉ ')' :: ']' :: urlTrailing) {cs url : List Char}
    (h : cs ++ [c] <+: url) : cs ++ [c] <+: trimUrl url :=
  isPrefix_trimUrl h (endsWell_concat hc cs)

/-- The slashes behind a scheme are a good end. -/
theorem slashes_isPrefix_trimUrl {scheme url : List Char} (h : scheme ++ "://".toList <+: url) :
    scheme ++ "://".toList <+: trimUrl url := by
  have hsplit : scheme ++ "://".toList = scheme ++ [':', '/'] ++ ['/'] := by simp
  rw [hsplit] at h ⊢
  exact concat_isPrefix_trimUrl (by decide) h

end DocPages.Text
