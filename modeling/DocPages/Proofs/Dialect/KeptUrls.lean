import DocPages.Proofs.Comment.InlineForm
import DocPages.Proofs.Dialect.Escaping

/-!
# URLs keep their scheme

A URL is cut off where it ends well for the last time (`eq_trimUrl_iff_longest_endsWell`). The slashes
behind a scheme are a good end, so the cut comes after them. Hence a bare URL in a doc comment still has its
scheme when it is made a link (`exists_of_autolink`), and so has one that escaping leaves as it is
(`exists_scheme_of_urlAt?`). Of a mail address at least the word in front of the colon is left.
-/

namespace DocPages

open Text

/-! ## Bare URLs in comments -/

namespace Inline

theorem autolink_of_toSpan {p : Piece} {link : String} (h : p.toSpan = .autolink link) :
    p = .autolink link.toList := by
  cases p <;> simp only [Piece.toSpan, reduceCtorEq, Span.autolink.injEq] at h
  rw [← h, String.toList_ofList]

theorem token_of_autolink {scope : Scope} {defs : Definitions} {t : Token} {link : List Char}
    (h : .autolink link ∈ pieces scope defs t) : ∃ url, t = .url url ∧ link = trimUrl url := by
  cases t with
  | char c => cases List.mem_singleton.1 h
  | code body => cases List.mem_singleton.1 h
  | bracket label href =>
    have hbracket := List.mem_singleton.1 h
    unfold resolveBracket at hbracket
    repeat' split at hbracket
    all_goals cases hbracket
  | url url =>
    simp only [pieces, List.mem_cons, List.not_mem_nil, or_false, reduceCtorEq,
      Piece.autolink.injEq] at h
    exact ⟨url, rfl, h⟩

/-- A bare URL is what is left of one that stands in the text, and it keeps the scheme. -/
theorem exists_of_autolink {scope : Scope} {defs : Definitions} {cs : List Char} {link : String}
    (h : .autolink link ∈ spans scope defs cs) :
    ∃ scheme body rest, IsUrl scheme body rest ∧ link.toList = trimUrl (scheme ++ body) ∧
      scheme <+: link.toList := by
  obtain ⟨p, hp, hspan⟩ := List.mem_map.1 h
  rw [autolink_of_toSpan hspan] at hp
  obtain ⟨t, htext⟩ | hread := mem_merge hp
  · cases htext
  obtain ⟨t, ht, hpiece⟩ := List.mem_flatMap.1 hread
  obtain ⟨url, rfl, hlink⟩ := token_of_autolink hpiece
  obtain ⟨cs, hstart⟩ | ⟨c, hchar⟩ := starts_of_mem_tokensFrom ht
  · cases hstart with
    | @url scheme body rest hurl =>
      exact ⟨scheme, body, rest, hurl, hlink, hlink ▸ hurl.scheme_isPrefix_trimUrl⟩
  · cases hchar

end Inline

/-! ## URLs that are not escaped -/

namespace Dialect

/-- What may stand in front of a colon and two slashes. -/
def IsScheme (scheme : List Char) : Prop :=
  scheme ≠ [] ∧ ∀ c ∈ scheme, isSchemeChar c = true

theorem isPrefix_of_urlAfter? {start url : List Char} {rest : Option (List Char)}
    (h : urlAfter? start rest = some url) : start <+: url := by
  unfold urlAfter? at h
  split at h
  · cases h
  · split at h
    · cases h
    · cases h
      exact List.prefix_append _ _

theorem isSchemeChar_of_isAlpha {c : Char} (h : c.isAlpha = true) : isSchemeChar c = true := by
  simp [isSchemeChar, Char.isAlphanum, h]

/-- A URL that is found has a scheme and slashes, or it is a mail address. -/
theorem exists_scheme_of_urlAt? {prev : Option Char} {cs url : List Char}
    (h : urlAt? prev cs = some url) :
    (∃ scheme, IsScheme scheme ∧ scheme ++ "://".toList <+: url) ∨ "mailto:".toList <+: url := by
  rcases cs with _ | ⟨c, cs⟩
  · cases prev <;> simp [urlAt?] at h
  have hc := isSchemeChar_of_isAlpha (isAlpha_of_urlAt? h)
  unfold urlAt? at h
  split at h
  · cases h
  · simp only at h
    split at h
    · rename_i found hfound
      cases h
      refine Or.inl ⟨_, ⟨?_, fun d hd => List.mem_takeWhile_imp hd⟩, isPrefix_of_urlAfter? hfound⟩
      rw [List.takeWhile_cons_of_pos hc]
      exact List.cons_ne_nil _ _
    · exact Or.inr (isPrefix_of_urlAfter? h)

/-- The characters that are to be kept are written first. -/
theorem take_isPrefix_escapeFrom (prev : Option Char) (keep found : ℕ) (cs : List Char) :
    cs.take keep <+: escapeFrom prev keep found cs := by
  induction keep generalizing prev found cs with
  | zero => exact List.nil_prefix
  | succ keep ih =>
    rcases cs with _ | ⟨c, cs⟩
    · exact List.nil_prefix
    · rw [List.take_succ_cons, escapeFrom]
      exact (List.prefix_cons_inj c).2 (ih (some c) (found - 1) cs)

/-- Where a URL is found, what is left of it is written as it is. -/
theorem trimUrl_isPrefix_escapeFrom {prev : Option Char} {cs url : List Char}
    (h : urlAt? prev cs = some url) (hne : trimUrl url ≠ []) :
    trimUrl url <+: escapeFrom prev 0 0 cs := by
  have hfront := (trimUrl_isPrefix url).trans (urlAt?_isPrefix h)
  obtain ⟨c, kept, hkept⟩ := List.exists_cons_of_ne_nil hne
  rcases cs with _ | ⟨d, cs⟩
  · exact absurd (List.prefix_nil.1 hfront) hne
  rw [hkept, List.cons_prefix_cons] at hfront
  obtain ⟨rfl, hrest⟩ := hfront
  have hwritten := take_isPrefix_escapeFrom (some c) kept.length (url.length - 1) cs
  rw [← List.prefix_iff_eq_take.1 hrest] at hwritten
  rw [escapeFrom, h]
  simp only [hkept, List.length_cons, Nat.add_sub_cancel]
  exact (List.prefix_cons_inj c).2 hwritten

end Dialect

/-! ## Trimming -/

namespace Text

/-- **A URL is trimmed to its longest prefix that ends well.** So trimming twice is trimming once, and the
slashes behind a scheme stay: in every bare URL of a comment, and in every URL that escaping leaves as it is,
unless this is a mail address, of which the word in front stays. -/
theorem eq_trimUrl_iff_longest_endsWell :
    (∀ url p : List Char, p = trimUrl url ↔
      p <+: url ∧ EndsWell p ∧ ∀ q, q <+: url → EndsWell q → q.length ≤ p.length) ∧
    (∀ url, trimUrl (trimUrl url) = trimUrl url) ∧
    (∀ scheme url, scheme ++ "://".toList <+: url → scheme ++ "://".toList <+: trimUrl url) ∧
    (∀ (scope : Scope) (defs : Inline.Definitions) (cs : List Char) (link : String),
      .autolink link ∈ Inline.spans scope defs cs →
        ∃ scheme body rest, Inline.IsUrl scheme body rest ∧
          link.toList = trimUrl (scheme ++ body) ∧ scheme <+: link.toList) ∧
    ∀ (prev : Option Char) (cs url : List Char), Dialect.urlAt? prev cs = some url →
      trimUrl url <+: Dialect.escapeFrom prev 0 0 cs ∧
        ((∃ scheme, Dialect.IsScheme scheme ∧ scheme ++ "://".toList <+: url ∧
          scheme ++ "://".toList <+: trimUrl url) ∨
        ("mailto:".toList <+: url ∧ "mailto".toList <+: trimUrl url)) := by
  refine ⟨fun url p => ⟨?_, ?_⟩, fun url => trimUrl_eq_self (endsWell_trimUrl url),
    fun _ _ => slashes_isPrefix_trimUrl, fun scope defs cs link h => Inline.exists_of_autolink h,
    fun prev cs url h => ?_⟩
  · rintro rfl
    exact ⟨trimUrl_isPrefix url, endsWell_trimUrl url,
      fun q hq hends => (isPrefix_trimUrl hq hends).length_le⟩
  · rintro ⟨hfront, hends, hlongest⟩
    have hle := hlongest _ (trimUrl_isPrefix url) (endsWell_trimUrl url)
    exact (isPrefix_trimUrl hfront hends).eq_of_length_le hle
  · rcases Dialect.exists_scheme_of_urlAt? h with ⟨scheme, hscheme, hurl⟩ | hmail
    · have hkept := slashes_isPrefix_trimUrl hurl
      have hne : trimUrl url ≠ [] := hkept.ne_nil (by simp)
      exact ⟨Dialect.trimUrl_isPrefix_escapeFrom h hne, Or.inl ⟨scheme, hscheme, hurl, hkept⟩⟩
    · have hword : "mailt".toList ++ ['o'] <+: url := List.IsPrefix.trans (by decide) hmail
      have hkept := concat_isPrefix_trimUrl (by decide) hword
      have hne : trimUrl url ≠ [] := hkept.ne_nil (by simp)
      exact ⟨Dialect.trimUrl_isPrefix_escapeFrom h hne, Or.inr ⟨hmail, hkept⟩⟩

/-- A bracket that was closed too often is in the middle of the URL, and one that was not is at its end. -/
theorem eq_trimUrl_iff_longest_endsWell_brackets :
    trimUrl "ftp://a)(b).".toList = "ftp://a)(b".toList ∧
      (∀ q, q <+: "ftp://a)(b).".toList → EndsWell q → q.length ≤ "ftp://a)(b".toList.length) ∧
      "ftp".toList ++ "://".toList <+: trimUrl "ftp://a)(b).".toList := by
  obtain ⟨hlongest, -, hslashes, -⟩ := eq_trimUrl_iff_longest_endsWell
  have htrim : "ftp://a)(b".toList = trimUrl "ftp://a)(b).".toList := by decide
  exact ⟨htrim.symm, ((hlongest _ _).1 htrim).2.2, hslashes "ftp".toList _ (by decide)⟩

end Text

end DocPages
