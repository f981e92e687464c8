import DocPages.Proofs.Comment.InlineText
import Mathlib.Data.List.Chain

/-!
# Form of spans

What can be relied on in the spans of a text (`wellFormed_spans`): none is without text, text is never
split over two spans, and what can be followed has a target.

1. Tokens are proper (`proper_token`): labels and targets are not empty, and a URL keeps its scheme when
   the punctuation at its end is cut off.
2. So are the pieces of proper tokens (`complete_of_mem_pieces`), apart from the text behind a URL, which
   can be empty.
3. Merging drops empty text and leaves no two texts side by side (`settled_merge`, `separated_merge`).
-/

namespace DocPages

open Text

/-! ## Well-formed spans -/

namespace Span

def isText : Span → Bool
  | text _ => true
  | _ => false

/-- A span has something to show. Text and code lead nowhere, links to other pages and bare URLs lead
somewhere, and a bare URL shows where it leads. -/
def WellFormed (s : Span) : Prop :=
  s.display ≠ "" ∧
    match s with
    | text _ | raw _ => s.target = ""
    | link _ _ => s.target ≠ ""
    | autolink _ => s.target ≠ "" ∧ s.display = s.target
    | localLink _ _ => True

end Span

/-- The spans of a paragraph or heading: there are some, each is well formed, and no two texts are
neighbours. -/
structure Inline.WellFormed (spans : List Span) : Prop where
  ne_nil : spans ≠ []
  wellFormed : ∀ s ∈ spans, s.WellFormed
  merged : spans.IsChain fun s t => ¬ (s.isText = true ∧ t.isText = true)

namespace Inline

/-! ## URLs keep their scheme -/

theorem exists_slash_of_mem_urlSchemes {scheme : List Char} (h : scheme ∈ urlSchemes) :
    ∃ front, scheme = front ++ ['/'] := by
  simp only [urlSchemes, List.mem_cons, List.not_mem_nil, or_false] at h
  rcases h with rfl | rfl | rfl | rfl
  · exact ⟨"https:/".toList, by decide⟩
  · exact ⟨"http:/".toList, by decide⟩
  · exact ⟨"ftp:/".toList, by decide⟩
  · exact ⟨"file:/".toList, by decide⟩

/-- What is cut off a URL is never part of its scheme. -/
theorem IsUrl.scheme_isPrefix_trimUrl {scheme body rest : List Char} (h : IsUrl scheme body rest) :
    scheme <+: trimUrl (scheme ++ body) := by
  obtain ⟨front, rfl⟩ := exists_slash_of_mem_urlSchemes h.1
  exact concat_isPrefix_trimUrl (by decide) (List.prefix_append _ body)

theorem IsUrl.trimUrl_ne_nil {scheme body rest : List Char} (h : IsUrl scheme body rest) :
    trimUrl (scheme ++ body) ≠ [] := by
  obtain ⟨front, rfl⟩ := exists_slash_of_mem_urlSchemes h.1
  intro hnil
  have hkept := h.scheme_isPrefix_trimUrl
  rw [hnil, List.prefix_nil] at hkept
  simp at hkept

/-! ## Tokens -/

/-- A token whose parts are not empty. -/
def Token.Proper : Token → Prop
  | .char _ | .code _ => True
  | .bracket label href => label ≠ [] ∧ ∀ target ∈ href, target ≠ []
  | .url u => trimUrl u ≠ []

theorem Starts.proper {cs : List Char} {t : Token} (h : Starts cs t) : t.Proper := by
  cases h with
  | code => exact trivial
  | label hlabel => exact ⟨hlabel.1, by simp⟩
  | link hlabel hhref => exact ⟨hlabel.1, by simpa using hhref.1⟩
  | url hurl => exact hurl.trimUrl_ne_nil

theorem proper_token (c : Char) (cs : List Char) : (token c cs).Proper := by
  rcases starts_token c cs with hstart | hchar
  · exact hstart.proper
  · rw [hchar]
    exact trivial

theorem starts_of_mem_tokensFrom {skip : ℕ} {cs : List Char} {t : Token}
    (h : t ∈ tokensFrom skip cs) : (∃ rest, Starts rest t) ∨ ∃ c, t = .char c := by
  fun_induction tokensFrom skip cs with
  | case1 => cases h
  | case2 skip c cs ih => exact ih h
  | case3 c cs t' ih =>
    rcases List.mem_cons.1 h with rfl | h
    · exact (starts_token c cs).imp (fun hstart => ⟨_, hstart⟩) fun hchar => ⟨c, hchar⟩
    · exact ih h

theorem proper_of_mem_tokensFrom {skip : ℕ} {cs : List Char} {t : Token}
    (h : t ∈ tokensFrom skip cs) : t.Proper := by
  rcases starts_of_mem_tokensFrom h with ⟨rest, hstart⟩ | ⟨c, rfl⟩
  · exact hstart.proper
  · exact trivial

/-! ## Targets -/

theorem importPathUrl?_ne_empty {host url : String} {label : List Char}
    (h : Reference.importPathUrl? host label = some url) : url ≠ "" := by
  unfold Reference.importPathUrl? at h
  split at h
  · cases h
  · rename_i path symbol _
    split_ifs at h with hpath
    have hne : path ≠ [] := by
      rintro rfl
      exact absurd hpath (by decide)
    split at h <;> cases h <;> simp [hne]

theorem externalUrl?_ne_empty {scope : Scope} {label : List Char} {url : String}
    (h : Reference.externalUrl? scope label = some url) : url ≠ "" := by
  unfold Reference.externalUrl? at h
  split_ifs at h
  · exact importPathUrl?_ne_empty h
  · split at h
    · cases h
    · split_ifs at h
      cases h
      simp

/-! ## Pieces -/

/-- A piece other than text that has something to show and leads somewhere if it is a link. -/
def Piece.Complete : Piece → Prop
  | .text _ => False
  | .raw cs | .localLink cs _ | .autolink cs | .unresolved cs => cs ≠ []
  | .link cs url => cs ≠ [] ∧ url ≠ ""

section

variable {scope : Scope} {defs : Definitions}

/-- Every token is shown by some character. -/
theorem shown_pieces_ne_nil {t : Token} (ht : t.Proper) :
    (pieces scope defs t).flatMap Piece.shown ≠ [] := by
  cases t with
  | char c => simp [pieces, Piece.shown]
  | code body => simp [pieces, Piece.shown, Token.source]
  | url u => simp [pieces, Piece.shown, show trimUrl u ≠ [] from ht]
  | bracket label href =>
    have hlabel := ht.1
    simp only [pieces, List.flatMap_cons, List.flatMap_nil, List.append_nil]
    unfold resolveBracket
    repeat' split
    all_goals simp [Piece.shown, Token.source, hlabel]

variable (hdefs : ∀ d ∈ defs, d.2 ≠ "")

include hdefs

theorem complete_resolveBracket {label : List Char} {href : Option (List Char)}
    (ht : (Token.bracket label href).Proper) :
    (∃ cs, resolveBracket scope defs label href = .text cs) ∨
      (resolveBracket scope defs label href).Complete := by
  obtain ⟨hlabel, hhref⟩ := ht
  unfold resolveBracket
  split
  · rename_i href
    exact Or.inr ⟨hlabel, by simpa using hhref href rfl⟩
  · split
    · rename_i url hurl
      obtain ⟨key, hmem⟩ : ∃ key, (key, url) ∈ defs := by
        obtain ⟨before, after, hsplit, -⟩ := List.lookup_eq_some_iff.1 hurl
        exact ⟨_, hsplit ▸ List.mem_append_right _ List.mem_cons_self⟩
      exact Or.inr ⟨hlabel, hdefs _ hmem⟩
    · split
      · rename_i url hurl
        exact Or.inr ⟨hlabel, externalUrl?_ne_empty hurl⟩
      · split_ifs
        · split
          · exact Or.inr hlabel
          · exact Or.inr hlabel
        · exact Or.inl ⟨_, rfl⟩

theorem complete_of_mem_pieces {t : Token} (ht : t.Proper) {p : Piece}
    (hp : p ∈ pieces scope defs t) : (∃ cs, p = .text cs) ∨ p.Complete := by
  cases t with
  | char c => exact Or.inl ⟨_, List.mem_singleton.1 hp⟩
  | code body =>
    obtain rfl := List.mem_singleton.1 hp
    exact Or.inr (by simp [Piece.Complete, Token.source])
  | bracket label href =>
    obtain rfl := List.mem_singleton.1 hp
    exact complete_resolveBracket hdefs ht
  | url u =>
    simp only [pieces, List.mem_cons, List.not_mem_nil, or_false] at hp
    rcases hp with rfl | rfl
    · exact Or.inr ht
    · exact Or.inl ⟨_, rfl⟩

theorem complete_of_mem_read {cs : List Char} {p : Piece} (hp : p ∈ read scope defs cs) :
    (∃ t, p = .text t) ∨ p.Complete := by
  obtain ⟨t, ht, hp⟩ := List.mem_flatMap.1 hp
  exact complete_of_mem_pieces hdefs (proper_of_mem_tokensFrom ht) hp

end

/-! ## Merging -/

def Piece.isText : Piece → Bool
  | .text _ => true
  | _ => false

/-- A piece that merging leaves: text is not empty, and unresolved labels have become text. -/
def Piece.Settled : Piece → Prop
  | .text cs => cs ≠ []
  | .unresolved _ => False
  | _ => True

theorem settled_addText {cs : List Char} {ps : List Piece} (h : ∀ p ∈ ps, p.Settled) :
    ∀ p ∈ addText cs ps, p.Settled := by
  unfold addText
  split
  · rename_i t rest
    obtain ⟨ht, hrest⟩ := List.forall_mem_cons.1 h
    refine List.forall_mem_cons.2 ⟨?_, hrest⟩
    exact fun hnil => ht (List.append_eq_nil_iff.1 hnil).2
  · split_ifs with hempty
    · exact h
    · exact List.forall_mem_cons.2 ⟨fun hnil => hempty (List.isEmpty_iff.2 hnil), h⟩

theorem settled_merge (ps : List Piece) : ∀ p ∈ merge ps, p.Settled := by
  fun_induction merge ps with
  | case1 => exact List.forall_mem_nil _
  | case2 cs rest ih => exact settled_addText ih
  | case3 label rest ih => exact settled_addText ih
  | case4 p rest htext hunresolved ih =>
    refine List.forall_mem_cons.2 ⟨?_, ih⟩
    cases p with
    | text cs => exact absurd rfl (htext cs)
    | unresolved cs => exact absurd rfl (hunresolved cs)
    | _ => exact trivial

/-- Pieces of which no two neighbours are text. -/
def Separated (ps : List Piece) : Prop :=
  ps.IsChain fun p q => ¬ (p.isText = true ∧ q.isText = true)

theorem separated_addText {cs : List Char} {ps : List Piece} (h : Separated ps) :
    Separated (addText cs ps) := by
  unfold addText
  split
  · exact List.isChain_cons.2 (List.isChain_cons.1 h)
  · rename_i hhead
    split_ifs
    · exact h
    · refine List.isChain_cons.2 ⟨fun q hq hboth => ?_, h⟩
      obtain ⟨rest, rfl⟩ := List.head?_eq_some_iff.1 hq
      cases q with
      | text t => exact hhead t rest rfl
      | _ => cases hboth.2

theorem separated_merge (ps : List Piece) : Separated (merge ps) := by
  fun_induction merge ps with
  | case1 => exact List.isChain_nil
  | case2 cs rest ih => exact separated_addText ih
  | case3 label rest ih => exact separated_addText ih
  | case4 p rest htext _ ih =>
    have hp : ¬ p.isText = true := by
      cases p with
      | text cs => exact absurd rfl (htext cs)
      | _ => exact Bool.false_ne_true
    exact List.isChain_cons.2 ⟨fun q _ hboth => hp hboth.1, ih⟩

/-! ## Spans -/

theorem isText_toSpan {p : Piece} (h : p.Settled) : p.toSpan.isText = p.isText := by
  cases p <;> first | rfl | exact h.elim

theorem display_toSpan_ne_empty {p : Piece} (h : p.shown ≠ []) : p.toSpan.display ≠ "" := by
  rw [← display_toSpan] at h
  exact fun hempty => h (by rw [hempty]; rfl)

theorem wellFormed_toSpan {p : Piece} (hsettled : p.Settled)
    (hcomplete : (∃ cs, p = .text cs) ∨ p.Complete) : p.toSpan.WellFormed := by
  rcases hcomplete with ⟨cs, rfl⟩ | hcomplete
  · exact ⟨display_toSpan_ne_empty hsettled, rfl⟩
  · cases p with
    | text cs => exact hcomplete.elim
    | unresolved cs => exact hsettled.elim
    | raw cs => exact ⟨display_toSpan_ne_empty hcomplete, rfl⟩
    | link cs url => exact ⟨display_toSpan_ne_empty hcomplete.1, hcomplete.2⟩
    | localLink cs anchor => exact ⟨display_toSpan_ne_empty hcomplete, trivial⟩
    | autolink cs =>
      have hshown := display_toSpan_ne_empty (p := .autolink cs) hcomplete
      exact ⟨hshown, hshown, rfl⟩

/-- **The spans of a text are well formed** where every defined label has a target. -/
theorem wellFormed_spans (scope : Scope) {defs : Definitions} (hdefs : ∀ d ∈ defs, d.2 ≠ "")
    {cs : List Char} (hcs : cs ≠ []) : Inline.WellFormed (spans scope defs cs) where
  ne_nil := by
    obtain ⟨c, cs, rfl⟩ := List.exists_cons_of_ne_nil hcs
    have hshown : (merge (read scope defs (c :: cs))).flatMap Piece.shown ≠ [] := by
      rw [flatMap_shown_merge]
      unfold read tokens
      rw [tokensFrom, List.flatMap_cons, List.flatMap_append]
      exact fun hnil => shown_pieces_ne_nil (proper_token c cs) (List.append_eq_nil_iff.1 hnil).1
    intro hnil
    rw [spans, List.map_eq_nil_iff] at hnil
    exact hshown (by rw [hnil]; rfl)
  wellFormed := by
    intro s hs
    obtain ⟨p, hp, rfl⟩ := List.mem_map.1 hs
    apply wellFormed_toSpan (settled_merge _ p hp)
    rcases mem_merge hp with htext | hp
    · exact Or.inl htext
    · exact complete_of_mem_read hdefs hp
  merged := by
    unfold spans
    rw [List.isChain_map]
    refine (separated_merge (read scope defs cs)).imp_of_mem_imp fun p q hp hq hpq => ?_
    rwa [isText_toSpan (settled_merge _ p hp), isText_toSpan (settled_merge _ q hq)]

end Inline

end DocPages
