import DocPages.Proofs.Comment.TokenGrammar
import DocPages.Proofs.Text.Url

/-!
# Text of tokens and spans

The tokens of a text, put together, are the text (`flatMap_source_tokens`): scanning neither drops nor
repeats a character. Brackets are the only tokens that are shown otherwise than they are written, so a
text without an opening bracket is shown as it is (`flatMap_display_spans`).
-/

namespace DocPages

open Text

namespace Inline

/-! ## Tokens -/

theorem Starts.source_isPrefix {cs : List Char} {t : Token} (h : Starts cs t) :
    t.source <+: cs ∧ t.source ≠ [] := by
  cases h with
  | @code body rest => exact ⟨⟨rest, by simp [Token.source]⟩, by simp [Token.source]⟩
  | @label label rest => exact ⟨⟨rest, by simp [Token.source]⟩, by simp [Token.source]⟩
  | @link label href rest => exact ⟨⟨rest, by simp [Token.source]⟩, by simp [Token.source]⟩
  | @url scheme body rest hurl => exact ⟨⟨rest, rfl⟩, by simp [Token.source, hurl.2.1]⟩

/-- A token is written at the start of the text it is read from. -/
theorem source_token_isPrefix (c : Char) (cs : List Char) :
    (token c cs).source <+: c :: cs ∧ (token c cs).source ≠ [] := by
  rcases starts_token c cs with hstart | hchar
  · exact hstart.source_isPrefix
  · rw [hchar]
    exact ⟨⟨cs, rfl⟩, by simp [Token.source]⟩

theorem source_token_append (c : Char) (cs : List Char) :
    (token c cs).source ++ cs.drop ((token c cs).source.length - 1) = c :: cs := by
  obtain ⟨hsource, hne⟩ := source_token_isPrefix c cs
  obtain ⟨d, source, hcons⟩ := List.exists_cons_of_ne_nil hne
  have hall := List.prefix_iff_eq_append.1 hsource
  rw [hcons, List.length_cons] at hall ⊢
  rw [Nat.add_sub_cancel]
  exact hall

theorem flatMap_source_tokensFrom (cs : List Char) : ∀ skip,
    (tokensFrom skip cs).flatMap Token.source = cs.drop skip := by
  induction cs with
  | nil => intro skip; cases skip <;> rfl
  | cons c cs ih =>
    intro skip
    rcases skip with _ | skip
    · rw [tokensFrom, List.flatMap_cons, ih]
      exact source_token_append c cs
    · exact ih skip

/-- The tokens of a text make up the text. -/
theorem flatMap_source_tokens (cs : List Char) : (tokens cs).flatMap Token.source = cs :=
  flatMap_source_tokensFrom cs 0

/-! ## Merging -/

theorem mem_addText {cs : List Char} {ps : List Piece} {p : Piece} (h : p ∈ addText cs ps) :
    (∃ t, p = .text t) ∨ p ∈ ps := by
  unfold addText at h
  split at h
  · rcases List.mem_cons.1 h with rfl | h
    · exact Or.inl ⟨_, rfl⟩
    · exact Or.inr (List.mem_cons_of_mem _ h)
  · split at h
    · exact Or.inr h
    · rcases List.mem_cons.1 h with rfl | h
      · exact Or.inl ⟨_, rfl⟩
      · exact Or.inr h

/-- Merging makes no pieces but text. -/
theorem mem_merge {ps : List Piece} {p : Piece} (h : p ∈ merge ps) :
    (∃ t, p = .text t) ∨ p ∈ ps := by
  fun_induction merge ps with
  | case1 => exact Or.inr h
  | case2 cs rest ih =>
    rcases mem_addText h with ht | h
    · exact Or.inl ht
    · exact (ih h).imp_right (List.mem_cons_of_mem _)
  | case3 label rest ih =>
    rcases mem_addText h with ht | h
    · exact Or.inl ht
    · exact (ih h).imp_right (List.mem_cons_of_mem _)
  | case4 q rest _ _ ih =>
    rcases List.mem_cons.1 h with rfl | h
    · exact Or.inr List.mem_cons_self
    · exact (ih h).imp_right (List.mem_cons_of_mem _)

/-! ## What is shown -/

/-- The characters that a piece is shown with. -/
def Piece.shown : Piece → List Char
  | .text cs | .raw cs | .link cs _ | .localLink cs _ | .autolink cs | .unresolved cs => cs

theorem display_toSpan (p : Piece) : p.toSpan.display.toList = p.shown := by
  cases p <;> exact String.toList_ofList

theorem flatMap_shown_addText (cs : List Char) (ps : List Piece) :
    (addText cs ps).flatMap Piece.shown = cs ++ ps.flatMap Piece.shown := by
  unfold addText
  split
  · rw [List.flatMap_cons, List.flatMap_cons]
    exact List.append_assoc _ _ _
  · split_ifs with hnil
    · rw [List.isEmpty_iff.1 hnil, List.nil_append]
    · rw [List.flatMap_cons]
      rfl

theorem flatMap_shown_merge (ps : List Piece) :
    (merge ps).flatMap Piece.shown = ps.flatMap Piece.shown := by
  fun_induction merge ps with
  | case1 => rfl
  | case2 cs rest ih => rw [flatMap_shown_addText, ih, List.flatMap_cons]; rfl
  | case3 label rest ih => rw [flatMap_shown_addText, ih, List.flatMap_cons]; rfl
  | case4 p rest _ _ ih => rw [List.flatMap_cons, List.flatMap_cons, ih]

variable (scope : Scope) (defs : Definitions)

theorem flatMap_shown_pieces {t : Token} (h : ∀ label href, t ≠ .bracket label href) :
    (pieces scope defs t).flatMap Piece.shown = t.source := by
  cases t with
  | char c => rfl
  | code body =>
    show (Token.code body).source ++ [] = _
    exact List.append_nil _
  | bracket label href => exact absurd rfl (h label href)
  | url url =>
    show trimUrl url ++ (url.drop (trimUrl url).length ++ []) = url
    rw [List.append_nil]
    exact List.prefix_iff_eq_append.1 (trimUrl_isPrefix url)

/-- A text without an opening bracket is shown as it is written. -/
theorem flatMap_display_spans {cs : List Char} (h : '[' ∉ cs) :
    (spans scope defs cs).flatMap (fun s => s.display.toList) = cs := by
  have hpieces : (read scope defs cs).flatMap Piece.shown = cs := by
    have hsource : '[' ∉ (tokens cs).flatMap Token.source := by rwa [flatMap_source_tokens]
    conv_rhs => rw [← flatMap_source_tokens cs]
    unfold read
    rw [List.flatMap_assoc]
    apply List.flatMap_congr
    intro t ht
    apply flatMap_shown_pieces
    rintro label href rfl
    exact hsource (List.mem_flatMap.2 ⟨_, ht, by cases href <;> simp [Token.source]⟩)
  unfold spans
  rw [List.flatMap_map]
  simp only [display_toSpan]
  rw [flatMap_shown_merge, hpieces]

end Inline

end DocPages
