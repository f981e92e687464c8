import DocPages.Proofs.Comment.ParagraphBreak
import DocPages.Proofs.Data.Traversal

/-!
# Where link definitions stand

A paragraph of link definitions holds for the whole comment, whether it comes before the text or after
it (`parse_append_definitions`).

1. Definitions are taken out paragraph by paragraph, and a break ends a paragraph
   (`extractFrom_append_break`).
2. What a paragraph of definitions leaves of itself is the empty line that kept it apart, and at either
   end of the text such a line changes no block (`blocks_cons_empty`, `blocks_append_empty`).
3. Definitions are only looked up by their labels (`SameTargets.spans`), so their order matters for none
   but labels that are defined twice (`sameTargets_append_comm`).
-/

namespace DocPages

open Text

namespace Inline

/-! ## Looking definitions up -/

/-- Definitions that give every label the same target. -/
def SameTargets (defs defs' : Definitions) : Prop :=
  ∀ label, defs.lookup label = defs'.lookup label

theorem SameTargets.spans {defs defs' : Definitions} (h : SameTargets defs defs') (scope : Scope) :
    spans scope defs = spans scope defs' := by
  have hbracket : ∀ label href,
      resolveBracket scope defs label href = resolveBracket scope defs' label href := by
    intro label href
    unfold resolveBracket
    rw [h (String.ofList label)]
  have hpieces : pieces scope defs = pieces scope defs' := by
    funext t
    cases t with
    | bracket label href => exact congrArg (fun p => [p]) (hbracket label href)
    | char _ | code _ | url _ => rfl
  funext cs
  unfold Inline.spans read
  rw [hpieces]

theorem lookup_eq_none_of_notMem {defs : Definitions} {label : String}
    (h : label ∉ defs.map Prod.fst) : defs.lookup label = none := by
  rw [List.lookup_eq_none_iff]
  intro d hd
  rw [bne_iff_ne]
  rintro rfl
  exact h (List.mem_map_of_mem hd)

/-- Definitions without a common label can change places. -/
theorem sameTargets_append_comm {defs defs' : Definitions}
    (h : ∀ label ∈ defs.map Prod.fst, label ∉ defs'.map Prod.fst) :
    SameTargets (defs ++ defs') (defs' ++ defs) := by
  intro label
  rw [List.lookup_append, List.lookup_append]
  by_cases hlabel : label ∈ defs.map Prod.fst
  · rw [lookup_eq_none_of_notMem (h label hlabel), Option.or_none, Option.none_or]
  · rw [lookup_eq_none_of_notMem hlabel, Option.or_none, Option.none_or]

end Inline

namespace Comment

/-! ## Taking definitions out -/

/-- Definitions before a break and after it are taken out separately. -/
theorem extractFrom_append_break (after : List Line) {before : List Line} :
    ∀ skip, skip ≤ before.length →
      extractFrom skip (before ++ [] :: after) =
        ((extractFrom skip before).1 ++ [] :: (extractDefinitions after).1,
          (extractFrom skip before).2 ++ (extractDefinitions after).2) := by
  induction before with
  | nil =>
    intro skip hskip
    obtain rfl : skip = 0 := Nat.le_zero.1 hskip
    rfl
  | cons l rest ih =>
    intro skip hskip
    rcases skip with _ | skip
    · rw [List.cons_append]
      unfold extractFrom
      by_cases hl : isBlankLine l = true
      · simp only [if_pos hl, ih 0 (Nat.zero_le _), List.cons_append]
      · have htail : (rest ++ [] :: after).takeWhile (!isBlankLine ·) =
            rest.takeWhile (!isBlankLine ·) := takeWhile_append_stop rfl rest after
        have hlen : (rest.takeWhile (!isBlankLine ·)).length ≤ rest.length :=
          (List.takeWhile_prefix _).length_le
        simp only [if_neg hl, htail, ih _ hlen]
        cases definitions? (l :: rest.takeWhile (!isBlankLine ·)) with
        | none => simp only [List.append_assoc, List.cons_append]
        | some found => simp only [List.append_assoc]
    · rw [List.length_cons] at hskip
      exact ih skip (by omega)

theorem isBlankLine_of_definition? {l : Line} {d : String × String} (h : definition? l = some d) :
    isBlankLine l = false := by
  by_contra hblank
  have hl : ∀ c ∈ l, isBlank c = true := isBlankLine_iff.1 (by simpa using hblank)
  have hnil : trim l = [] := by
    unfold trim trimStart
    rw [List.dropWhile_eq_nil_iff.2 hl]
    rfl
  unfold definition? at h
  rw [hnil] at h
  cases h

theorem extractFrom_length (ls : List Line) : extractFrom ls.length ls = ([], []) := by
  induction ls with
  | nil => rfl
  | cons l ls ih => exact ih

/-- Of a paragraph of definitions no line is kept. -/
theorem extractDefinitions_of_definitions {ls : List Line} {found : Inline.Definitions}
    (h : definitions? ls = some found) : extractDefinitions ls = ([], found) := by
  rcases ls with _ | ⟨l, more⟩
  · cases h
  · have htext : ∀ k ∈ l :: more, isBlankLine k = false := by
      have hmap : (if isIndented l then none else (l :: more).mapM definition?) = some found := h
      split_ifs at hmap
      intro k hk
      obtain ⟨d, hd⟩ := Data.exists_read_of_mapM hmap k hk
      exact isBlankLine_of_definition? hd
    have hl : ¬ isBlankLine l = true := by simp [htext l List.mem_cons_self]
    have hall : more.takeWhile (!isBlankLine ·) = more := by
      apply List.takeWhile_eq_self_iff.2
      intro k hk
      simp [htext k (List.mem_cons_of_mem l hk)]
    unfold extractDefinitions extractFrom
    simp only [if_neg hl, hall, h, extractFrom_length, List.append_nil]

/-! ## Comments -/

theorem body_append_break {a : String} (h : a.toList.getLast? ≠ some '\r') (b : String) :
    body (a ++ "\n\n" ++ b) = ((body a).1 ++ [] :: (body b).1, (body a).2 ++ (body b).2) := by
  show extractDefinitions (textLines (a ++ "\n\n" ++ b)) = _
  rw [textLines_append_break h]
  exact extractFrom_append_break _ 0 (Nat.zero_le _)

/-- **Link definitions work wherever they stand.** A paragraph of definitions before a text or after it
gives the blocks of the text, read with those definitions besides its own. -/
theorem parse_append_definitions (scope : Scope) {a d : String}
    (ha : a.toList.getLast? ≠ some '\r') (hd : d.toList.getLast? ≠ some '\r')
    (hdefs : (definitions? (textLines d)).isSome = true)
    (hnew : ∀ label ∈ (body d).2.map Prod.fst, label ∉ (body a).2.map Prod.fst) :
    parse scope (d ++ "\n\n" ++ a) = parse scope (a ++ "\n\n" ++ d) ∧
      parse scope (a ++ "\n\n" ++ d) = parseLines scope ((body a).2 ++ (body d).2) (body a).1 := by
  obtain ⟨found, hfound⟩ := Option.isSome_iff_exists.1 hdefs
  have hbody : body d = ([], found) := extractDefinitions_of_definitions hfound
  have hafter : parse scope (a ++ "\n\n" ++ d) =
      parseLines scope ((body a).2 ++ (body d).2) (body a).1 := by
    unfold parse parseLines
    rw [body_append_break ha, hbody, blocks_append_empty]
  have hbefore : parse scope (d ++ "\n\n" ++ a) =
      parseLines scope ((body a).2 ++ (body d).2) (body a).1 := by
    unfold parse parseLines
    rw [body_append_break hd, (Inline.sameTargets_append_comm hnew).spans, hbody, List.nil_append,
      blocks_cons_empty]
  exact ⟨hbefore.trans hafter.symm, hafter⟩

/-- A label used in an item of a list, in a text with a definition of its own. -/
theorem parse_append_definitions_listItem :
    (definitions? (textLines "[the docs]: https://example.com/docs")).isSome = true ∧
      (∀ label ∈ (body "[the docs]: https://example.com/docs").2.map Prod.fst,
        label ∉ (body "[RFC]: https://rfc.example\n\nSee\n  - [the docs]\n  - [RFC]").2.map Prod.fst) ∧
      Doc.spans ⟨1, parse {} ("[the docs]: https://example.com/docs" ++ "\n\n" ++
          "[RFC]: https://rfc.example\n\nSee\n  - [the docs]\n  - [RFC]")⟩ =
        [.text "See", .link "the docs" "https://example.com/docs",
          .link "RFC" "https://rfc.example"] := by
  have hdefs : (definitions? (textLines "[the docs]: https://example.com/docs")).isSome = true := by
    decide +kernel
  have hnew : ∀ label ∈ (body "[the docs]: https://example.com/docs").2.map Prod.fst,
      label ∉ (body "[RFC]: https://rfc.example\n\nSee\n  - [the docs]\n  - [RFC]").2.map Prod.fst := by
    decide +kernel
  obtain ⟨hmoved, hread⟩ := parse_append_definitions {} (by decide +kernel) (by decide +kernel)
    hdefs hnew
  refine ⟨hdefs, hnew, ?_⟩
  rw [hmoved, hread]
  decide +kernel

end Comment

end DocPages
