import DocPages.Proofs.Comment.InlineText

/-!
# Bracket groups

Running text is shown as it is written, apart from brackets: a group `[label]` or `[label](target)` either
loses its brackets and its target or is kept, and each that loses them is a link or is reported
(`spans_account`).

1. The groups are looked for from left to right: what `tokens` returns is the one way to cut a text into
   groups and characters at which no group starts (`scan_iff`).
2. What becomes of a group is read off its label and target (`fate`, `fate_makes`).
3. Merging moves neither links nor reports (`filterMap_merge`).
-/

namespace DocPages

open Text

/-- The label of a link. -/
def Span.linkLabel? : Span → Option String
  | .link label _ | .localLink label _ => some label
  | _ => none

namespace Inline

/-! ## Scanning -/

/-- A text cut into groups, from left to right, and the characters at which no group starts. -/
inductive Scan : List Char → List Token → Prop
  | nil : Scan [] []
  | group {t : Token} {rest : List Char} {ts : List Token} (hstart : Starts (t.source ++ rest) t)
    (hrest : Scan rest ts) : Scan (t.source ++ rest) (t :: ts)
  | char {c : Char} {rest : List Char} {ts : List Token} (hnone : ∀ t, ¬ Starts (c :: rest) t)
    (hrest : Scan rest ts) : Scan (c :: rest) (.char c :: ts)

theorem tokensFrom_eq (cs : List Char) : ∀ skip, tokensFrom skip cs = tokens (cs.drop skip) := by
  induction cs with
  | nil => intro skip; cases skip <;> rfl
  | cons c cs ih =>
    intro skip
    cases skip with
    | zero => rfl
    | succ skip => exact ih skip

theorem tokens_cons {c : Char} {cs rest : List Char} {t : Token} (h : token c cs = t)
    (hcs : c :: cs = t.source ++ rest) : tokens (c :: cs) = t :: tokens rest := by
  have hrest : cs.drop (t.source.length - 1) = rest := by
    have hall := source_token_append c cs
    rw [h, hcs] at hall
    exact List.append_cancel_left hall
  show token c cs :: tokensFrom ((token c cs).source.length - 1) cs = _
  rw [h, tokensFrom_eq, hrest]

theorem tokens_of_scan {cs : List Char} {ts : List Token} (h : Scan cs ts) : tokens cs = ts := by
  induction h with
  | nil => rfl
  | @group t rest ts hstart _ ih =>
    obtain ⟨c, cs, hcs⟩ := hstart.exists_cons
    rw [hcs] at hstart ⊢
    rw [tokens_cons (token_of_starts hstart) hcs.symm, ih]
  | @char c rest ts hnone _ ih =>
    have hchar : token c rest = .char c := (starts_token c rest).resolve_left (hnone _)
    rw [tokens_cons hchar rfl, ih]

-- The rest of a token is skipped character by character, so the induction is over every `skip`.
theorem scan_tokensFrom (cs : List Char) : ∀ skip, Scan (cs.drop skip) (tokensFrom skip cs) := by
  induction cs with
  | nil => intro skip; cases skip <;> exact .nil
  | cons c cs ih =>
    intro skip
    rcases skip with _ | skip
    · show Scan (c :: cs) (token c cs :: tokensFrom ((token c cs).source.length - 1) cs)
      rcases starts_token c cs with hstart | hchar
      · rw [← source_token_append c cs] at hstart ⊢
        exact .group hstart (ih _)
      · rw [hchar]
        refine .char (fun t ht => ?_) (ih 0)
        rw [← token_of_starts ht, hchar] at ht
        exact not_starts_char ht
    · exact ih skip

/-- The tokens are the one way to cut a text. -/
theorem scan_iff {cs : List Char} {ts : List Token} : Scan cs ts ↔ ts = tokens cs :=
  ⟨fun h => (tokens_of_scan h).symm, fun h => h ▸ scan_tokensFrom cs 0⟩

/-! ## Fates -/

/-- What becomes of a bracket group. -/
inductive Fate where
  | linked
  /-- The label is shown and reported. -/
  | reported
  /-- The group is shown as it is written. -/
  | kept
deriving DecidableEq

section

variable (scope : Scope) (defs : Definitions)

/-- A label that leads somewhere without a target of its own. -/
def leads (label : List Char) : Bool :=
  (defs.lookup (String.ofList label)).isSome || (Reference.externalUrl? scope label).isSome ||
    (Reference.isReference label && (scope.symbols.find? (String.ofList label)).isSome)

def fate (label : List Char) (href : Option (List Char)) : Fate :=
  if href.isSome || leads scope defs label then .linked
  else if Reference.isReference label then .reported
  else .kept

/-- The label of a bracket group with the given fate. -/
def Token.labelOf? (f : Fate) : Token → Option String
  | .bracket label href => if fate scope defs label href = f then some (String.ofList label) else none
  | _ => none

/-- A token as it is shown. Only bracket groups that are not kept are shown otherwise than they are
written. -/
def Token.shown : Token → List Char
  | .bracket label href =>
    if fate scope defs label href = .kept then (Token.bracket label href).source else label
  | t => t.source

/-- The piece that a bracket group with the given fate can become. -/
def Fate.Makes (f : Fate) (label : List Char) (href : Option (List Char)) (p : Piece) : Prop :=
  match f with
  | .linked => (∃ url, p = .link label url) ∨ ∃ anchor, p = .localLink label anchor
  | .reported => p = .unresolved label
  | .kept => p = .text (Token.bracket label href).source

theorem fate_makes (label : List Char) (href : Option (List Char)) :
    (fate scope defs label href).Makes label href (resolveBracket scope defs label href) := by
  rcases href with _ | href
  · rcases hdef : defs.lookup (String.ofList label) with _ | url
    · rcases hhost : Reference.externalUrl? scope label with _ | url
      · rcases hfind : scope.symbols.find? (String.ofList label) with _ | s
        · cases hshape : Reference.isReference label <;>
            simp [fate, leads, resolveBracket, SymbolTable.resolve?, Fate.Makes, *]
        · cases hshape : Reference.isReference label <;>
            simp [fate, leads, resolveBracket, SymbolTable.resolve?, Fate.Makes, *]
      · simp [fate, leads, resolveBracket, Fate.Makes, *]
    · simp [fate, leads, resolveBracket, Fate.Makes, *]
  · simp [fate, resolveBracket, Fate.Makes]

/-! ## Pieces -/

theorem resolveBracket_observed (label : List Char) (href : Option (List Char)) :
    (resolveBracket scope defs label href).shown = (Token.bracket label href).shown scope defs ∧
      (resolveBracket scope defs label href).toSpan.linkLabel? =
        (Token.bracket label href).labelOf? scope defs .linked ∧
      (resolveBracket scope defs label href).warning? =
        (Token.bracket label href).labelOf? scope defs .reported := by
  have hmade := fate_makes scope defs label href
  simp only [Token.shown, Token.labelOf?]
  rcases hfate : fate scope defs label href with _ | _ | _ <;> rw [hfate] at hmade
  · rcases hmade with ⟨url, hp⟩ | ⟨anchor, hp⟩ <;> rw [hp] <;> exact ⟨rfl, rfl, rfl⟩
  · rw [show resolveBracket scope defs label href = _ from hmade]
    exact ⟨rfl, rfl, rfl⟩
  · rw [show resolveBracket scope defs label href = _ from hmade]
    exact ⟨rfl, rfl, rfl⟩

theorem shown_pieces (t : Token) :
    (pieces scope defs t).flatMap Piece.shown = t.shown scope defs := by
  cases t with
  | bracket label href =>
    rw [pieces, List.flatMap_singleton]
    exact (resolveBracket_observed scope defs label href).1
  | _ => exact flatMap_shown_pieces scope defs (by simp)

theorem filterMap_singleton_toList {α β : Type} (g : α → Option β) (x : α) :
    [x].filterMap g = (g x).toList := by
  rw [List.filterMap_eq_flatMap_toList, List.flatMap_singleton]

theorem linkLabel?_pieces (t : Token) :
    (pieces scope defs t).filterMap (fun p => p.toSpan.linkLabel?) =
      (t.labelOf? scope defs .linked).toList := by
  cases t with
  | bracket label href =>
    rw [pieces, filterMap_singleton_toList, (resolveBracket_observed scope defs label href).2.1]
  | _ => rfl

theorem warning?_pieces (t : Token) :
    (pieces scope defs t).filterMap Piece.warning? = (t.labelOf? scope defs .reported).toList := by
  cases t with
  | bracket label href =>
    rw [pieces, filterMap_singleton_toList, (resolveBracket_observed scope defs label href).2.2]
  | _ => rfl

theorem filterMap_read {β : Type} {g : Piece → Option β} {k : Token → Option β}
    (h : ∀ t, (pieces scope defs t).filterMap g = (k t).toList) (cs : List Char) :
    (read scope defs cs).filterMap g = (tokens cs).filterMap k := by
  unfold read
  rw [List.filterMap_flatMap, List.filterMap_eq_flatMap_toList]
  exact List.flatMap_congr fun t _ => h t

theorem filterMap_addText {β : Type} {g : Piece → Option β} (htext : ∀ cs, g (.text cs) = none)
    (cs : List Char) (ps : List Piece) : (addText cs ps).filterMap g = ps.filterMap g := by
  unfold addText
  split
  · rw [List.filterMap_cons_none (htext _), List.filterMap_cons_none (htext _)]
  · split_ifs
    · rfl
    · rw [List.filterMap_cons_none (htext _)]

theorem filterMap_merge {β : Type} {g : Piece → Option β} (htext : ∀ cs, g (.text cs) = none)
    (hunresolved : ∀ label, g (.unresolved label) = none) (ps : List Piece) :
    (merge ps).filterMap g = ps.filterMap g := by
  fun_induction merge ps with
  | case1 => rfl
  | case2 cs rest ih => rw [filterMap_addText htext, ih, List.filterMap_cons_none (htext cs)]
  | case3 label rest ih =>
    rw [filterMap_addText htext, ih, List.filterMap_cons_none (hunresolved label)]
  | case4 p rest _ _ ih => rw [List.filterMap_cons, List.filterMap_cons, ih]

/-- **The spans of a text account for each of its characters.** The text is cut in one way only. What is
shown is the text, apart from the brackets and targets of the groups that are not kept. The links are the
groups that are linked, and what is reported are the others. -/
theorem spans_account (cs : List Char) :
    (∀ ts, Scan cs ts ↔ ts = tokens cs) ∧
      (tokens cs).flatMap Token.source = cs ∧
      (spans scope defs cs).flatMap (fun s => s.display.toList) =
        (tokens cs).flatMap (Token.shown scope defs) ∧
      (spans scope defs cs).filterMap Span.linkLabel? =
        (tokens cs).filterMap (Token.labelOf? scope defs .linked) ∧
      warnings scope defs cs = (tokens cs).filterMap (Token.labelOf? scope defs .reported) := by
  refine ⟨fun ts => scan_iff, flatMap_source_tokens cs, ?_, ?_, ?_⟩
  · unfold spans
    rw [List.flatMap_map]
    simp only [display_toSpan]
    rw [flatMap_shown_merge, read, List.flatMap_assoc]
    exact List.flatMap_congr fun t _ => shown_pieces scope defs t
  · unfold spans
    rw [List.filterMap_map]
    exact (filterMap_merge (fun _ => rfl) (fun _ => rfl) _).trans
      (filterMap_read scope defs (linkLabel?_pieces scope defs) cs)
  · exact filterMap_read scope defs (warning?_pieces scope defs) cs

end

end Inline

end DocPages
