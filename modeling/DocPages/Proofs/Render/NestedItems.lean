import DocPages.Proofs.Page.Parts
import DocPages.Proofs.Render.DocTemplate
import DocPages.Proofs.Text.HangingIndent

/-!
# Items inside of items

The text of an item hangs under its marker: its first line follows the marker, and its other lines are moved
to the column behind it. It stands in the text of the blocks around it from the start of a line to the end of
one (`stands_item`), since lines are broken between items and between blocks. So the indents of nested items
add up (`exists_holdsAt`, `hangingIndent_nested`).
-/

namespace DocPages

open Text Comment Render

/-! ## Items at any depth -/

/-- The item `i` stands in a list among the blocks, or in an item of such a list, at any depth. The width is
that of the markers of all items around it and of its own. -/
inductive Item.Inside (i : Item (List Span)) : ℕ → List (Block (List Span)) → Prop
  | here {bs : List (Block (List Span))} {level : ℕ} {between : Bool} {items : List (Item (List Span))}
      (hlist : .list level between items ∈ bs) (hi : i ∈ items) :
      Item.Inside i (itemMarker i.number).length bs
  | deeper {bs : List (Block (List Span))} {level : ℕ} {between : Bool} {items : List (Item (List Span))}
      {outer : Item (List Span)} {width : ℕ} (hlist : .list level between items ∈ bs)
      (houter : outer ∈ items) (h : Item.Inside i width outer.blocks) :
      Item.Inside i ((itemMarker outer.number).length + width) bs

/-! ## Markers -/

/-- A marker is a sign and a space. -/
theorem exists_sign (number : Option ℕ) : ∃ sign, (itemMarker number).toList = sign ++ [' '] ∧
    sign ≠ [] ∧ ∀ c ∈ sign, isBlank c = false := by
  cases number with
  | none =>
    refine ⟨['-'], by decide, by decide, fun c hc => ?_⟩
    obtain rfl := List.mem_singleton.1 hc
    decide
  | some n =>
    refine ⟨Nat.toDigits 10 n ++ ['.'], ?_, by simp, fun c hc => ?_⟩
    · rw [itemMarker, String.toList_append, Nat.toList_repr, List.append_assoc]
      rfl
    · rcases List.mem_append.1 hc with hc | hc
      · exact isBlank_of_isDigit (Nat.isDigit_of_mem_toDigits (by omega) (by omega) hc)
      · obtain rfl := List.mem_singleton.1 hc
        decide

theorem newline_notMem_itemMarker (number : Option ℕ) : '\n' ∉ (itemMarker number).toList := by
  obtain ⟨sign, hmarker, -, hsign⟩ := exists_sign number
  rw [hmarker]
  intro hmem
  rcases List.mem_append.1 hmem with hmem | hmem
  · exact absurd (hsign _ hmem) (by rw [isBlank_newline]; decide)
  · exact absurd (List.mem_singleton.1 hmem) (by decide)

theorem itemMarker_length_pos (number : Option ℕ) : 0 < (itemMarker number).length := by
  obtain ⟨sign, hmarker, -⟩ := exists_sign number
  rw [← String.length_toList, hmarker]
  simp

theorem Item.Inside.width_pos {i : Item (List Span)} {width : ℕ} {bs : List (Block (List Span))}
    (h : i.Inside width bs) : 0 < width := by
  cases h with
  | here => exact itemMarker_length_pos _
  | deeper => exact Nat.add_pos_left (itemMarker_length_pos _) _

/-! ## Items among lines -/

theorem itemGap_breaks (between : Bool) : (itemGap between).toList.head? = some '\n' ∧
    (itemGap between).toList.getLast? = some '\n' := by
  cases between <;> decide

/-- The text of an item: the marker, and the text of its blocks hanging under it. -/
def hungUnder (number : Option ℕ) (content : String) : List Char :=
  (itemMarker number).toList ++ hangingIndent (itemMarker number).toList.length (trim content.toList)

theorem isTrimmed_hungUnder (number : Option ℕ) {content : String}
    (h : isBlankLine content.toList = false) : IsTrimmed (hungUnder number content) := by
  have htrim := isTrimmed_trim h
  obtain ⟨sign, hmarker, hne, hsign⟩ := exists_sign number
  obtain ⟨c, sign, rfl⟩ := List.exists_cons_of_ne_nil hne
  have hlast := List.getLast?_eq_some_getLast htrim.ne_nil
  rw [hungUnder, hmarker]
  refine ⟨by simp, ?_, ?_⟩
  · intro d hd
    obtain rfl : c = d := by simpa using hd
    exact hsign c List.mem_cons_self
  · intro d hd
    rw [List.getLast?_append, getLast?_hangingIndent, hlast] at hd
    exact htrim.last_not_blank d (hlast.trans hd)

section

variable {d : Dialect}

theorem Item.exists_of_write {i : Item (List Span)} {text : String} (h : i.write .words d = .ok text) :
    ∃ content, Block.writeAll .words d i.blocks = .ok content ∧
      text.toList = hungUnder i.number content := by
  rw [Item.write_eq] at h
  obtain ⟨content, hcontent, h⟩ := Page.bind_eq_ok.1 h
  obtain ⟨width, hwidth, h⟩ := Page.bind_eq_ok.1 h
  rw [count_words_eq] at hwidth
  split_ifs at hwidth
  · cases hwidth
    cases h
    refine ⟨content, hcontent, ?_⟩
    rw [hungUnder, String.toList_append, toList_onChars, toList_onChars, String.length_toList]
  · cases hwidth

/-- The texts of the items stand in that of a list, and the list in the text of the blocks around it. -/
theorem stands_item {level : ℕ} {between : Bool} {items : List (Item (List Span))}
    {i : Item (List Span)} (hi : i ∈ items) {bs : List (Block (List Span))}
    (hlist : .list level between items ∈ bs) : ∀ {page : String},
      Block.writeAll .words d bs = .ok page →
        ∃ content, Block.writeAll .words d i.blocks = .ok content ∧
          Stands (hungUnder i.number content) page.toList := by
  induction bs with
  | nil => cases hlist
  | cons b bs ih =>
    intro page hpage
    rw [Block.writeAll] at hpage
    obtain ⟨text, htext, hpage⟩ := Page.bind_eq_ok.1 hpage
    obtain ⟨rest, hrest, hpage⟩ := Page.bind_eq_ok.1 hpage
    cases hpage
    rw [String.toList_append]
    rcases List.mem_cons.1 hlist with rfl | hlist
    · rw [Block.write, Item.writeAll_eq_mapM] at htext
      obtain ⟨texts, htexts, htext⟩ := Page.bind_eq_ok.1 htext
      cases htext
      obtain ⟨itemText, hmem, hitem⟩ := Page.exists_shown_of_mapM htexts hi
      obtain ⟨content, hcontent, heq⟩ := Item.exists_of_write hitem
      obtain ⟨hfirst, hlast⟩ := itemGap_breaks between
      refine ⟨content, hcontent, ?_⟩
      rw [← heq, String.toList_append, String.toList_intercalate, List.append_assoc]
      exact (stands_intercalate hfirst hlast (List.mem_map_of_mem hmem)).trans
        ⟨[], _, rfl, by simp, by simp [eq_comm]⟩
    · obtain ⟨content, hcontent, hstands⟩ := ih hlist hrest
      refine ⟨content, hcontent, hstands.append_left fun c hc => ?_⟩
      obtain ⟨front, rfl⟩ := Block.write_ends htext
      rw [String.toList_append, List.getLast?_append] at hc
      exact (Option.some.inj hc).symm

/-! ## Columns -/

/-- The text inside of an item stands in the page at the column that the markers add up to. It does so in the
text of the outermost item around it, which has text at both ends, so no space that trimming drops counts. -/
theorem exists_holdsAt {i : Item (List Span)} {width : ℕ} {bs : List (Block (List Span))}
    (hi : i.Inside width bs) : ∀ {page : String}, Block.writeAll .words d bs = .ok page →
      ∃ content, Block.writeAll .words d i.blocks = .ok content ∧
        (isBlankLine content.toList = false → ∃ t, IsTrimmed t ∧ Stands t page.toList ∧
          HoldsAt width (trim content.toList) t) := by
  induction hi with
  | here hlist hi =>
    intro page hpage
    obtain ⟨content, hcontent, hstands⟩ := stands_item hi hlist hpage
    refine ⟨content, hcontent, fun hblank => ⟨_, isTrimmed_hungUnder _ hblank, hstands, ?_⟩⟩
    rw [← String.length_toList]
    exact holdsAt_marker (newline_notMem_itemMarker _) _
  | deeper hlist houter h ih =>
    intro page hpage
    obtain ⟨outerContent, houterContent, hstands⟩ := stands_item houter hlist hpage
    obtain ⟨content, hcontent, hholds⟩ := ih houterContent
    refine ⟨content, hcontent, fun hblank => ?_⟩
    obtain ⟨t, ht, hinner, hholds⟩ := hholds hblank
    refine ⟨_, isTrimmed_hungUnder _ (hinner.isBlankLine_eq_false ht), hstands, ?_⟩
    rw [← String.length_toList]
    exact (hholds.trans (hinner.trim ht)).hang h.width_pos (newline_notMem_itemMarker _)

end

namespace Render

/-- **Hanging indents add up.** The first line stays as it is, so do empty lines, and the spaces can be taken
off again. In a rendered doc comment the text inside of an item stands at the column that is the sum of the
widths of the markers of the items around it and of its own. -/
theorem hangingIndent_nested :
    (∀ (n m : ℕ) (cs : List Char),
      hangingIndent m (hangingIndent n cs) = hangingIndent (n + m) cs) ∧
    (∀ (n : ℕ) (cs : List Char),
      (lines (hangingIndent n cs)).length = (lines cs).length ∧
      (lines (hangingIndent n cs)).head? = (lines cs).head? ∧
      (∀ i : ℕ, (lines (hangingIndent n cs))[i]? = some [] ↔ (lines cs)[i]? = some []) ∧
      hangingOutdent? n (hangingIndent n cs) = some cs) ∧
    ∀ (d : Dialect) (doc : Doc) (page : String), (library d).render "doc" doc.toValue = .ok page →
      ∀ (i : Item (List Span)) (width : ℕ), i.Inside width doc.blocks →
        ∃ content, (library d).render "doc" (Doc.mk doc.level i.blocks).toValue = .ok content ∧
          (isBlankLine content.toList = false → HoldsAt width (trim content.toList) page.toList) := by
  refine ⟨hangingIndent_hangingIndent, fun n cs => ⟨length_lines_hangingIndent n cs,
    head?_lines_hangingIndent n cs, lines_hangingIndent_eq_nil n cs,
    hangingOutdent?_hangingIndent n cs⟩, ?_⟩
  intro d doc page hpage i width hi
  rw [render_doc_eq] at hpage
  obtain ⟨content, hcontent, hholds⟩ := exists_holdsAt hi hpage
  refine ⟨content, by rw [render_doc_eq, hcontent], fun hblank => ?_⟩
  obtain ⟨t, -, hstands, ht⟩ := hholds hblank
  exact ht.trans hstands

/-- Code with an empty line. -/
def codeItem : Item (List Span) :=
  .mk none [.code 1 "x\n\ny"]

def numberedItem : Item (List Span) :=
  .mk (some 3) [.paragraph 1 [.text "a"], .list 1 false [codeItem]]

theorem hangingIndent_nested_codeItem :
    let page := "3. a\n\n   - \x60\x60\x60\n     x\n\n     y\n     \x60\x60\x60\n\n"
    (library .github).render "doc" (Doc.mk 1 [.list 1 false [numberedItem]]).toValue = .ok page ∧
      HoldsAt (3 + 2) "\x60\x60\x60\nx\n\ny\n\x60\x60\x60".toList page.toList := by
  intro page
  have hpage : (library .github).render "doc" (Doc.mk 1 [.list 1 false [numberedItem]]).toValue =
      .ok page := by
    rw [render_doc_eq]
    rfl
  have hinside : codeItem.Inside ((itemMarker numberedItem.number).length +
      (itemMarker codeItem.number).length) [.list 1 false [numberedItem]] :=
    .deeper List.mem_cons_self List.mem_cons_self
      (.here (List.mem_cons_of_mem _ List.mem_cons_self) List.mem_cons_self)
  have hwidth : (itemMarker numberedItem.number).length + (itemMarker codeItem.number).length = 3 + 2 := by
    decide
  obtain ⟨content, hcontent, hholds⟩ := hangingIndent_nested.2.2 .github _ page hpage _ _ hinside
  obtain rfl : "\x60\x60\x60\nx\n\ny\n\x60\x60\x60\n\n" = content := by
    rw [render_doc_eq] at hcontent
    exact Except.ok.inj hcontent
  rw [hwidth] at hholds
  exact ⟨hpage, hholds (by decide)⟩

end Render

end DocPages
