import DocPages.Proofs.Text.Lines

/-!
# Words

A text is its words with white space between them: single characters, so that words may be empty. A
function that leaves white space as it is, and works on what stands before and after it apart, works on
the words one by one (`eq_weave_map_words`).
-/

namespace DocPages.Text

/-- The pieces of a text between its white space. -/
def words (cs : List Char) : List (List Char) :=
  splitBy isBlank cs

/-- The white space of a text. -/
def blanks (cs : List Char) : List Char :=
  cs.filter isBlank

/-- Words with characters between them. -/
def weave : List (List Char) → List Char → List Char
  | [], _ => []
  | word :: rest, [] => word ++ weave rest []
  | word :: rest, c :: cs => word ++ c :: weave rest cs

theorem isBlank_of_mem_words {cs word : List Char} (hword : word ∈ words cs) {c : Char}
    (hc : c ∈ word) : isBlank c = false := by
  unfold words at hword
  rw [splitBy_eq_splitOnP] at hword
  exact (of_mem_splitOnP hword c hc).2

theorem words_of_forall {cs : List Char} (h : ∀ c ∈ cs, isBlank c = false) : words cs = [cs] := by
  unfold words
  rw [splitBy_eq_splitOnP]
  exact List.splitOnP_eq_singleton h

theorem words_append_blank (cs ds : List Char) {w : Char} (hw : isBlank w = true) :
    words (cs ++ w :: ds) = words cs ++ words ds := by
  unfold words
  rw [splitBy_eq_splitOnP, splitBy_eq_splitOnP, splitBy_eq_splitOnP]
  exact List.splitOnP_append_cons cs ds hw

theorem blanks_of_forall {cs : List Char} (h : ∀ c ∈ cs, isBlank c = false) : blanks cs = [] := by
  unfold blanks
  rw [List.filter_eq_nil_iff]
  intro c hc
  rw [h c hc]
  decide

theorem blanks_append_blank {word : List Char} (hword : ∀ c ∈ word, isBlank c = false)
    {w : Char} (hw : isBlank w = true) (cs : List Char) :
    blanks (word ++ w :: cs) = w :: blanks cs := by
  have hnone := blanks_of_forall hword
  unfold blanks at hnone ⊢
  rw [List.filter_append, hnone, List.filter_cons_of_pos hw, List.nil_append]

/-- A text without white space is one word, and any other starts with a word before white space. -/
theorem exists_first_word (cs : List Char) :
    (∀ c ∈ cs, isBlank c = false) ∨ ∃ word w rest, cs = word ++ w :: rest ∧
      (∀ c ∈ word, isBlank c = false) ∧ isBlank w = true := by
  cases hfind : cs.find? isBlank with
  | none =>
    left
    simpa using hfind
  | some w =>
    right
    obtain ⟨hw, word, rest, hcs, hword⟩ := List.find?_eq_some_iff_append.1 hfind
    exact ⟨word, w, rest, hcs, by simpa using hword, hw⟩

theorem eq_weave_map_words {f : List Char → List Char}
    (hf : ∀ a w b, isBlank w = true → f (a ++ w :: b) = f a ++ w :: f b) (cs : List Char) :
    f cs = weave ((words cs).map f) (blanks cs) := by
  induction hlength : cs.length using Nat.strong_induction_on generalizing cs with
  | _ n ih =>
    rcases exists_first_word cs with hword | ⟨word, w, rest, rfl, hword, hw⟩
    · rw [words_of_forall hword, blanks_of_forall hword]
      simp [weave]
    · have hshorter : rest.length < n := by
        rw [← hlength, List.length_append, List.length_cons]
        omega
      rw [hf word w rest hw, words_append_blank word rest hw, words_of_forall hword,
        blanks_append_blank hword hw, ih rest.length hshorter rest rfl]
      rfl

theorem weave_words (cs : List Char) : weave (words cs) (blanks cs) = cs := by
  have hid := eq_weave_map_words (f := id) (fun _ _ _ _ => rfl) cs
  rw [List.map_id] at hid
  exact hid.symm

end DocPages.Text
