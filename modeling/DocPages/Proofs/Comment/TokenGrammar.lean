import DocPages.Comment.Inline
import DocPages.Proofs.Text.Lines

/-!
# Grammar of tokens

What can start at a place of a text is said without reference to the scanner (`Starts`): code in
backquotes, a bracketed label with or without a target, or a URL. The scanner reads what starts there
(`token_of_starts`), and where nothing does it reads a single character (`starts_token`).
-/

namespace DocPages.Inline

open Text

/-! ## Grammar -/

/-- The target of a link: no white space and no parentheses. -/
def IsHref (href : List Char) : Prop :=
  href ≠ [] ∧ ∀ c ∈ href, isHrefChar c = true

/-- The label of a bracket group. -/
def IsLabel (label : List Char) : Prop :=
  label ≠ [] ∧ ∀ c ∈ label, isLabelChar c = true

/-- A known scheme and as many characters after it as a URL can have. -/
def IsUrl (scheme body rest : List Char) : Prop :=
  scheme ∈ urlSchemes ∧ body ≠ [] ∧ (∀ c ∈ body, isUrlChar c = true) ∧
    ∀ c ∈ rest.head?, isUrlChar c = false

/-- A text starts with code, a bracket group or a URL. A target belongs to the group before it, and a URL
goes on as long as it can. -/
inductive Starts : List Char → Token → Prop
  | code {body rest : List Char} (hne : body ≠ []) (hbody : ∀ c ∈ body, c ≠ '\x60') :
    Starts ('\x60' :: body ++ '\x60' :: rest) (.code body)
  | label {label rest : List Char} (hlabel : IsLabel label)
    (hbare : ∀ href after, IsHref href → rest ≠ '(' :: href ++ ')' :: after) :
    Starts ('[' :: label ++ ']' :: rest) (.bracket label none)
  | link {label href rest : List Char} (hlabel : IsLabel label) (hhref : IsHref href) :
    Starts ('[' :: label ++ ']' :: '(' :: href ++ ')' :: rest) (.bracket label (some href))
  | url {scheme body rest : List Char} (hurl : IsUrl scheme body rest) :
    Starts (scheme ++ body ++ rest) (.url (scheme ++ body))

/-! ## Front parts -/

theorem enclosed_eq_some_iff {p : Char → Bool} {stop : Char} (hstop : p stop = false)
    {cs body rest : List Char} :
    enclosed p stop cs = some (body, rest) ↔
      (body ≠ [] ∧ ∀ c ∈ body, p c = true) ∧ cs = body ++ stop :: rest := by
  constructor
  · intro h
    unfold enclosed at h
    split at h
    · cases h
    · cases h
    · rename_i c after hdrop hne
      split_ifs at h with hc
      cases h
      refine ⟨⟨hne, fun c hc => List.mem_takeWhile_imp hc⟩, ?_⟩
      rw [← hc, ← hdrop, List.takeWhile_append_dropWhile]
  · rintro ⟨⟨hne, hbody⟩, rfl⟩
    have htake : (body ++ stop :: rest).takeWhile p = body := by
      rw [takeWhile_append_stop hstop, List.takeWhile_eq_self_iff.2 hbody]
    have hdrop : (body ++ stop :: rest).dropWhile p = stop :: rest := by
      rw [List.dropWhile_append_of_pos hbody, List.dropWhile_cons_of_neg (by simp [hstop])]
    unfold enclosed
    rw [htake, hdrop]
    split
    · exact absurd rfl hne
    · rename_i heq
      cases heq
    · rename_i heq
      cases heq
      exact if_pos rfl

theorem href?_eq_some_iff {cs href : List Char} :
    href? cs = some href ↔ ∃ rest, IsHref href ∧ cs = '(' :: href ++ ')' :: rest := by
  have hstop : isHrefChar ')' = false := by decide
  constructor
  · intro h
    unfold href? at h
    split at h
    · obtain ⟨⟨body, rest⟩, henclosed, rfl⟩ := Option.map_eq_some_iff.1 h
      obtain ⟨hhref, rfl⟩ := (enclosed_eq_some_iff hstop).1 henclosed
      exact ⟨rest, hhref, rfl⟩
    · cases h
  · rintro ⟨rest, hhref, rfl⟩
    show (enclosed isHrefChar ')' (href ++ ')' :: rest)).map (·.1) = _
    rw [(enclosed_eq_some_iff hstop).2 ⟨hhref, rfl⟩]
    rfl

/-- No scheme is the start of another one. -/
theorem eq_of_scheme_isPrefix : ∀ scheme ∈ urlSchemes, ∀ other ∈ urlSchemes,
    scheme <+: other → scheme = other := by
  decide

theorem scheme_inj {scheme other cs ds : List Char} (hscheme : scheme ∈ urlSchemes)
    (hother : other ∈ urlSchemes) (h : scheme ++ cs = other ++ ds) : scheme = other ∧ cs = ds := by
  have heq : scheme = other := by
    rcases List.prefix_or_prefix_of_prefix (List.prefix_append scheme cs)
      (h ▸ List.prefix_append other ds) with hle | hle
    · exact eq_of_scheme_isPrefix scheme hscheme other hother hle
    · exact (eq_of_scheme_isPrefix other hother scheme hscheme hle).symm
  exact ⟨heq, List.append_cancel_left (heq ▸ h)⟩

theorem exists_of_url? {cs url : List Char} (h : url? cs = some url) :
    ∃ scheme body rest, IsUrl scheme body rest ∧ cs = scheme ++ body ++ rest ∧
      url = scheme ++ body := by
  unfold url? at h
  obtain ⟨scheme, hscheme, h⟩ := List.exists_of_findSome?_eq_some h
  split at h
  · cases h
  · rename_i rest hrest
    split at h
    · cases h
    · rename_i hne
      cases h
      refine ⟨scheme, rest.takeWhile isUrlChar, rest.dropWhile isUrlChar, ⟨hscheme, hne, ?_, ?_⟩,
        ?_, rfl⟩
      · exact fun c hc => List.mem_takeWhile_imp hc
      · intro c hc
        have hstop := List.head?_dropWhile_not isUrlChar rest
        rw [Option.mem_def.1 hc] at hstop
        exact hstop
      · rw [List.append_assoc, List.takeWhile_append_dropWhile, eq_append_of_dropFront? hrest]

theorem url?_append {scheme body rest : List Char} (h : IsUrl scheme body rest) :
    url? (scheme ++ body ++ rest) = some (scheme ++ body) := by
  obtain ⟨hscheme, hne, hbody, hend⟩ := h
  have htake := takeWhile_append_of_head hbody hend
  have hsome : (url? (scheme ++ body ++ rest)).isSome = true := by
    unfold url?
    rw [List.findSome?_isSome_iff]
    refine ⟨scheme, hscheme, ?_⟩
    rw [List.append_assoc, dropFront?_append]
    simp only [htake]
    rfl
  obtain ⟨url, hurl⟩ := Option.isSome_iff_exists.1 hsome
  obtain ⟨scheme', body', rest', ⟨hscheme', -, hbody', hend'⟩, hcs, rfl⟩ := exists_of_url? hurl
  rw [List.append_assoc, List.append_assoc] at hcs
  obtain ⟨rfl, htail⟩ := scheme_inj hscheme hscheme' hcs
  have hbodies : body' = body := by
    rw [← takeWhile_append_of_head hbody' hend', ← htail, htake]
  rw [hurl, hbodies]

/-! ## Tokens -/

/-- No scheme starts with a backquote or a bracket. -/
theorem head_of_mem_urlSchemes : ∀ scheme ∈ urlSchemes,
    ∃ c rest, scheme = c :: rest ∧ c ≠ '\x60' ∧ c ≠ '[' := by
  simp only [urlSchemes, List.forall_mem_cons]
  exact ⟨⟨'h', "ttps://".toList, by decide⟩, ⟨'h', "ttp://".toList, by decide⟩,
    ⟨'f', "tp://".toList, by decide⟩, ⟨'f', "ile://".toList, by decide⟩, List.forall_mem_nil _⟩

theorem Starts.exists_cons {cs : List Char} {t : Token} (h : Starts cs t) :
    ∃ c rest, cs = c :: rest := by
  cases h with
  | url hurl =>
    obtain ⟨c, front, rfl, -⟩ := head_of_mem_urlSchemes _ hurl.1
    exact ⟨c, _, rfl⟩
  | _ => exact ⟨_, _, rfl⟩

theorem href?_eq_none {rest : List Char}
    (h : ∀ href after, IsHref href → rest ≠ '(' :: href ++ ')' :: after) : href? rest = none := by
  refine Option.eq_none_iff_forall_not_mem.2 fun href hhref => ?_
  obtain ⟨after, hvalid, rfl⟩ := href?_eq_some_iff.1 hhref
  exact h href after hvalid rfl

theorem token_of_starts {c : Char} {cs : List Char} {t : Token} (h : Starts (c :: cs) t) :
    token c cs = t := by
  generalize hl : c :: cs = l at h
  cases h with
  | @code body rest hne hbody =>
    rw [List.cons_append] at hl
    obtain ⟨rfl, rfl⟩ := List.cons.inj hl
    have henclosed : enclosed (· != '\x60') '\x60' (body ++ '\x60' :: rest) = some (body, rest) :=
      (enclosed_eq_some_iff (by decide)).2 ⟨⟨hne, fun c hc => by simpa using hbody c hc⟩, rfl⟩
    simp only [token, henclosed]
  | @label label rest hlabel hbare =>
    rw [List.cons_append] at hl
    obtain ⟨rfl, rfl⟩ := List.cons.inj hl
    have henclosed : enclosed isLabelChar ']' (label ++ ']' :: rest) = some (label, rest) :=
      (enclosed_eq_some_iff (by decide)).2 ⟨hlabel, rfl⟩
    simp only [token, henclosed, href?_eq_none hbare]
  | @link label href rest hlabel hhref =>
    rw [List.append_assoc, List.cons_append, List.cons_append] at hl
    obtain ⟨rfl, rfl⟩ := List.cons.inj hl
    have henclosed : enclosed isLabelChar ']' (label ++ ']' :: ('(' :: href ++ ')' :: rest)) =
        some (label, '(' :: href ++ ')' :: rest) :=
      (enclosed_eq_some_iff (by decide)).2 ⟨hlabel, rfl⟩
    have htarget : href? ('(' :: href ++ ')' :: rest) = some href :=
      href?_eq_some_iff.2 ⟨rest, hhref, rfl⟩
    simp only [token, henclosed, htarget]
  | @url scheme body rest hurl =>
    obtain ⟨d, front, rfl, hquote, hbracket⟩ := head_of_mem_urlSchemes scheme hurl.1
    have hfound := url?_append hurl
    rw [← hl] at hfound
    obtain ⟨rfl, -⟩ := List.cons.inj hl
    -- URLs are tried last, and no scheme can be mistaken for a quote or a bracket
    unfold token
    split
    · exact absurd rfl hquote
    · exact absurd rfl hbracket
    · rw [hfound]

/-- What is read is a group that starts there, or a single character. -/
theorem starts_token (c : Char) (cs : List Char) :
    Starts (c :: cs) (token c cs) ∨ token c cs = .char c := by
  unfold token
  split
  · split
    · rename_i body rest henclosed
      obtain ⟨⟨hne, hbody⟩, rfl⟩ := (enclosed_eq_some_iff (by decide)).1 henclosed
      exact Or.inl (.code hne fun c hc => by simpa using hbody c hc)
    · exact Or.inr rfl
  · split
    · rename_i label rest henclosed
      obtain ⟨hlabel, rfl⟩ := (enclosed_eq_some_iff (by decide)).1 henclosed
      rcases htarget : href? rest with _ | href
      · refine Or.inl (.label hlabel fun href after hhref hrest => ?_)
        rw [href?_eq_some_iff.2 ⟨after, hhref, hrest⟩] at htarget
        cases htarget
      · obtain ⟨after, hhref, rfl⟩ := href?_eq_some_iff.1 htarget
        have hstart : Starts ('[' :: label ++ ']' :: '(' :: href ++ ')' :: after) _ :=
          .link hlabel hhref
        exact Or.inl (by simpa using hstart)
    · exact Or.inr rfl
  · split
    · rename_i url hurl
      obtain ⟨scheme, body, rest, hvalid, hcs, rfl⟩ := exists_of_url? hurl
      exact Or.inl (hcs ▸ .url hvalid)
    · exact Or.inr rfl

theorem not_starts_char {cs : List Char} {c : Char} : ¬ Starts cs (.char c) := by
  intro h
  cases h

end DocPages.Inline
