import DocPages.Proofs.Text.Lines

/-!
# Collapsed white space

Collapsing makes every run of white space one space. A run is read character by character, and its last
character is the one that is kept, so there are three steps: text, the end of a run, and the rest of it.
-/

namespace DocPages.Text

section Step

variable {c : Char} {cs : List Char}

theorem collapseBlanks_cons_of_text (hc : isBlank c = false) :
    collapseBlanks (c :: cs) = c :: collapseBlanks cs := by
  rw [collapseBlanks, if_neg (by simp [hc])]

theorem collapseBlanks_cons_of_end (hc : isBlank c = true) (h : ∀ d ∈ cs.head?, isBlank d = false) :
    collapseBlanks (c :: cs) = ' ' :: collapseBlanks cs := by
  have hnext : (cs.head?.map isBlank).getD false = false := by
    cases hcs : cs.head? with
    | none => rfl
    | some d => exact h d hcs
  rw [collapseBlanks, if_pos hc, if_neg (by simp [hnext])]

theorem collapseBlanks_cons_cons (hc : isBlank c = true) {d : Char} (hd : isBlank d = true) :
    collapseBlanks (c :: d :: cs) = collapseBlanks (d :: cs) := by
  rw [collapseBlanks, if_pos hc, if_pos (by simp [hd])]

end Step

theorem exists_collapseBlanks_blank {c : Char} (hc : isBlank c = true) (cs : List Char) :
    ∃ ds, collapseBlanks (c :: cs) = ' ' :: ds := by
  induction cs generalizing c with
  | nil => exact ⟨_, collapseBlanks_cons_of_end hc (by simp)⟩
  | cons d cs ih =>
    by_cases hd : isBlank d = true
    · rw [collapseBlanks_cons_cons hc hd]
      exact ih hd
    · exact ⟨_, collapseBlanks_cons_of_end hc (by simpa using hd)⟩

theorem collapseBlanks_ne_nil {cs : List Char} (h : cs ≠ []) : collapseBlanks cs ≠ [] := by
  fun_induction collapseBlanks cs with
  | case1 => exact absurd rfl h
  | case2 c cs _ hnext ih =>
    apply ih
    rintro rfl
    cases hnext
  | case3 => exact List.cons_ne_nil _ _
  | case4 => exact List.cons_ne_nil _ _

theorem collapseBlanks_eq_self {cs : List Char} (hspace : ∀ c ∈ cs, isBlank c = true → c = ' ')
    (hsingle : ¬ [' ', ' '] <:+: cs) : collapseBlanks cs = cs := by
  induction cs with
  | nil => rfl
  | cons c cs ih =>
    have ih' := ih (fun d hd => hspace d (List.mem_cons_of_mem c hd))
      fun h => hsingle (h.trans (List.suffix_cons c cs).isInfix)
    rw [collapseBlanks, ih']
    split_ifs with hc hnext
    · -- two blanks in a row are two spaces
      rcases cs with _ | ⟨d, cs⟩
      · cases hnext
      · have hd : d = ' ' := hspace d (by simp) hnext
        have hc' : c = ' ' := hspace c (by simp) hc
        subst hd hc'
        exact absurd (List.prefix_append [' ', ' '] cs).isInfix hsingle
    · rw [hspace c (by simp) hc]
    · rfl

/-- White space after text without any is collapsed alone. -/
theorem collapseBlanks_append {cs : List Char} (h : ∀ c ∈ cs, isBlank c = false)
    (rest : List Char) : collapseBlanks (cs ++ rest) = cs ++ collapseBlanks rest := by
  induction cs with
  | nil => rfl
  | cons c cs ih =>
    rw [List.forall_mem_cons] at h
    rw [List.cons_append, collapseBlanks_cons_of_text h.1, ih h.2, List.cons_append]

/-! ## Texts in front of others -/

/-- White space that does not go on from one text into the next is collapsed in each of them. -/
theorem collapseBlanks_append_of_gap {a b : List Char}
    (h : (∀ c ∈ a.getLast?, isBlank c = false) ∨ ∀ c ∈ b.head?, isBlank c = false) :
    collapseBlanks (a ++ b) = collapseBlanks a ++ collapseBlanks b := by
  induction a with
  | nil => rfl
  | cons c cs ih =>
    have ih' : collapseBlanks (cs ++ b) = collapseBlanks cs ++ collapseBlanks b := by
      refine ih (h.imp_left fun hlast d hd => hlast d ?_)
      rw [List.getLast?_cons, Option.mem_def.1 hd]
      rfl
    by_cases hc : isBlank c = true
    · rcases cs with _ | ⟨d, cs⟩
      · have hb : ∀ d ∈ b.head?, isBlank d = false := by
          refine h.resolve_left fun hlast => ?_
          rw [hlast c rfl] at hc
          cases hc
        rw [List.singleton_append, collapseBlanks_cons_of_end hc hb,
          collapseBlanks_cons_of_end hc (by simp)]
        rfl
      · by_cases hd : isBlank d = true
        · rw [List.cons_append, List.cons_append, collapseBlanks_cons_cons hc hd,
            collapseBlanks_cons_cons hc hd]
          exact ih'
        · have hend : ∀ e ∈ (d :: cs ++ b).head?, isBlank e = false := by simpa using hd
          rw [List.cons_append, collapseBlanks_cons_of_end hc hend, ih',
            collapseBlanks_cons_of_end hc (by simpa using hd), List.cons_append]
    · rw [List.cons_append, collapseBlanks_cons_of_text (by simpa using hc), ih',
        collapseBlanks_cons_of_text (by simpa using hc), List.cons_append]

theorem collapseBlanks_isPrefix {a b : List Char} (h : a <+: b) :
    collapseBlanks a <+: collapseBlanks b := by
  obtain ⟨rest, rfl⟩ := h
  induction a with
  | nil => exact List.nil_prefix
  | cons c cs ih =>
    by_cases hc : isBlank c = true
    · rcases cs with _ | ⟨d, cs⟩
      · obtain ⟨ds, hds⟩ := exists_collapseBlanks_blank hc rest
        rw [List.singleton_append, hds, collapseBlanks_cons_of_end hc (by simp)]
        exact List.cons_prefix_cons.2 ⟨rfl, List.nil_prefix⟩
      · rw [List.cons_append, List.cons_append]
        by_cases hd : isBlank d = true
        · rw [collapseBlanks_cons_cons hc hd, collapseBlanks_cons_cons hc hd]
          exact ih
        · rw [collapseBlanks_cons_of_end hc (by simpa using hd),
            collapseBlanks_cons_of_end hc (by simpa using hd)]
          exact List.cons_prefix_cons.2 ⟨rfl, ih⟩
    · rw [List.cons_append, collapseBlanks_cons_of_text (by simpa using hc),
        collapseBlanks_cons_of_text (by simpa using hc)]
      exact List.cons_prefix_cons.2 ⟨rfl, ih⟩

theorem mem_of_mem_collapseBlanks {c : Char} {cs : List Char} (h : c ∈ collapseBlanks cs) :
    c = ' ' ∨ c ∈ cs := by
  fun_induction collapseBlanks cs with
  | case1 => cases h
  | case2 d cs _ _ ih => exact (ih h).imp_right (List.mem_cons_of_mem d)
  | case3 d cs _ _ ih =>
    rcases List.mem_cons.1 h with rfl | h
    · exact Or.inl rfl
    · exact (ih h).imp_right (List.mem_cons_of_mem d)
  | case4 d cs _ ih =>
    rcases List.mem_cons.1 h with rfl | h
    · exact Or.inr List.mem_cons_self
    · exact (ih h).imp_right (List.mem_cons_of_mem d)

end DocPages.Text
