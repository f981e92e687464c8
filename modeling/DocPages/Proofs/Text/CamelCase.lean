import DocPages.Text.CamelCase
import Mathlib.Data.List.Basic
import Mathlib.Tactic.SplitIfs

/-!
# Where the words of a compound name start

The pass over a name writes each character one step late and counts what it has written of a word. What it
writes has a meaning place by place: the name with a space before each capital that stands after a small
letter or before one (`splitCamel_eq_spacedOut_capitalized`).

1. A count of zero says that the space in front of the character to come is already written, or that the
   character is the first one. Carried along the pass, this settles which spaces are still to be written
   (`spaceWords_eq`).
2. Spaced out, a name keeps its characters in their order (`sublist_spacedFrom`, `filter_spacedFrom`).
3. Spaces stand before characters of the name only, and not before the first (`evenlySpaced_spacedOut`).
-/

namespace DocPages.Text

/-- A capital of ASCII stands at a place. -/
def CapitalAt (name : List Char) (i : ℕ) : Prop :=
  ∃ c ∈ name[i]?, c.isUpper = true

instance (name : List Char) (i : ℕ) : Decidable (CapitalAt name i) :=
  Option.decidableExistsMem name[i]?

/-- A word other than the first starts at a place: a capital that follows a character that is none, or is
followed by one. -/
def StartsWord (name : List Char) (i : ℕ) : Prop :=
  1 ≤ i ∧ CapitalAt name i ∧
    (¬ CapitalAt name (i - 1) ∨ i + 1 < name.length ∧ ¬ CapitalAt name (i + 1))

instance (name : List Char) (i : ℕ) : Decidable (StartsWord name i) := by
  unfold StartsWord
  infer_instance

/-- A character of a name, after a space if a word starts at its place. -/
def spacedAt (name : List Char) (p : Char × ℕ) : List Char :=
  if StartsWord name p.2 then [' ', p.1] else [p.1]

/-- A name with a space wherever a word starts. -/
def spacedOut (name : List Char) : List Char :=
  name.zipIdx.flatMap (spacedAt name)

/-- A name whose first character has its capital form, or the first character of it. -/
def capitalized : List Char → List Char
  | [] => []
  | c :: cs => (upperChar c).headD c :: cs

/-- No space stands at an end or next to another one. -/
structure EvenlySpaced (cs : List Char) : Prop where
  starts : cs.head? ≠ some ' '
  ends : cs.getLast? ≠ some ' '
  single : ¬ [' ', ' '] <:+: cs

/-! ## One pass -/

theorem capitalAt_iff {name cs : List Char} {c : Char} {i : ℕ} (h : name.drop i = c :: cs) :
    CapitalAt name i ↔ c.isUpper = true := by
  have hc : name[i]? = some c := by
    rw [← List.head?_drop, h, List.head?_cons]
  simp [CapitalAt, hc]

theorem drop_succ_of_drop {name cs : List Char} {c : Char} {i : ℕ} (h : name.drop i = c :: cs) :
    name.drop (i + 1) = cs := by
  rw [← List.drop_drop, h, List.drop_succ_cons, List.drop_zero]

theorem startsWord_iff {name cs : List Char} {previous c : Char} {i : ℕ}
    (h : name.drop i = previous :: c :: cs) :
    StartsWord name i ↔ 1 ≤ i ∧ previous.isUpper = true ∧
      (¬ CapitalAt name (i - 1) ∨ ¬ c.isUpper = true) := by
  have hlength : i + 1 < name.length := by
    have hcount := congrArg List.length h
    simp only [List.length_drop, List.length_cons] at hcount
    omega
  rw [StartsWord, capitalAt_iff h, capitalAt_iff (drop_succ_of_drop h), and_iff_right hlength]

/-- At the last place of a name only a capital after a small letter starts a word. -/
theorem startsWord_last {name : List Char} {c : Char} {i : ℕ} (h : name.drop i = [c]) :
    StartsWord name i ↔ 1 ≤ i ∧ CapitalAt name i ∧ ¬ CapitalAt name (i - 1) := by
  have hlast : ¬ i + 1 < name.length := by
    have hcount := congrArg List.length h
    rw [List.length_drop, List.length_singleton] at hcount
    omega
  simp only [StartsWord, hlast, false_and, or_false]

/-- What is left to write when `previous` is the character at place `i`. The space in front of it is
written already, or never will be, if and only if nothing of its word is. -/
theorem spaceWords_eq {name cs : List Char} {previous : Char} {written i : ℕ}
    (hdrop : name.drop i = previous :: cs)
    (hwritten : written = 0 ↔ i = 0 ∨ (CapitalAt name i ∧ ¬ CapitalAt name (i - 1))) :
    spaceWords previous written cs =
      (if StartsWord name i ∧ written ≠ 0 then [' '] else []) ++
        previous :: (cs.zipIdx (i + 1)).flatMap (spacedAt name) := by
  induction cs generalizing previous written i with
  | nil =>
    have hhere : ¬ (StartsWord name i ∧ written ≠ 0) :=
      fun ⟨hword, hne⟩ => hne (hwritten.2 (Or.inr ((startsWord_last hdrop).1 hword).2))
    rw [spaceWords, if_neg hhere]
    rfl
  | cons c cs ih =>
    have hnext := drop_succ_of_drop hdrop
    have hprevious := capitalAt_iff hdrop
    have hc := capitalAt_iff hnext
    have hstarts := startsWord_iff hdrop
    rw [List.zipIdx_cons, List.flatMap_cons, spacedAt]
    by_cases hfall : previous.isUpper = true ∧ ¬ c.isUpper = true ∧ written ≠ 0
    · -- a capital that the count shows to be inside of a word, and a small letter after it
      obtain ⟨hp, hsmall, hne⟩ := hfall
      have hinside : 1 ≤ i := by
        by_contra hzero
        exact hne (hwritten.2 (Or.inl (by omega)))
      have hhere : StartsWord name i ∧ written ≠ 0 := ⟨hstarts.2 ⟨hinside, hp, Or.inr hsmall⟩, hne⟩
      have hthere : ¬ StartsWord name (i + 1) := fun h => hsmall (hc.1 h.2.1)
      have hcount : Nat.blt 0 written = true := by simpa [Nat.blt_eq] using Nat.pos_of_ne_zero hne
      rw [spaceWords, if_pos (by simp [hp, hsmall, hcount]),
        ih hnext (by simp [hprevious, hc, hp, hsmall]), if_pos hhere, if_neg (mt And.left hthere),
        if_neg hthere]
      rfl
    · rw [spaceWords, if_neg (by simpa [Nat.blt_eq, Nat.pos_iff_ne_zero] using hfall)]
      by_cases hrise : previous.isUpper = false ∧ c.isUpper = true
      · -- a capital after a small letter, whose space is written ahead of it
        obtain ⟨hp, hcapital⟩ := hrise
        have hsmall : ¬ CapitalAt name i := by simpa [hprevious] using hp
        have hhere : ¬ StartsWord name i := fun h => hsmall h.2.1
        have hthere : StartsWord name (i + 1) := ⟨by omega, hc.2 hcapital, Or.inl hsmall⟩
        rw [if_pos (by simp [hp, hcapital]), ih hnext (by simp [hprevious, hc, hp, hcapital]),
          if_neg (by simp), if_neg (mt And.left hhere), if_pos hthere]
        rfl
      · have hhere : ¬ (StartsWord name i ∧ written ≠ 0) := by
          rintro ⟨hword, hne⟩
          obtain ⟨-, hp, hbefore | hafter⟩ := hstarts.1 hword
          · exact hne (hwritten.2 (Or.inr ⟨hprevious.2 hp, hbefore⟩))
          · exact hfall ⟨hp, hafter, hne⟩
        have hgrows : written + 1 = 0 ↔
            i + 1 = 0 ∨ (CapitalAt name (i + 1) ∧ ¬ CapitalAt name (i + 1 - 1)) := by
          rw [Nat.add_sub_cancel, hprevious, hc, Bool.not_eq_true, and_comm]
          simp [hrise]
        rw [if_neg (by simpa using hrise), if_neg hhere, ih hnext hgrows]
        by_cases hthere : StartsWord name (i + 1) <;> simp [hthere]

/-- No word but the first starts at the start. -/
theorem spacedOut_cons (c : Char) (cs : List Char) :
    spacedOut (c :: cs) = c :: (cs.zipIdx 1).flatMap (spacedAt (c :: cs)) := by
  have hfirst : ¬ StartsWord (c :: cs) 0 := fun h => absurd h.1 (by decide)
  rw [spacedOut, List.zipIdx_cons, List.flatMap_cons, spacedAt, if_neg hfirst]
  rfl

theorem splitCamelChars_eq_spacedOut (cs : List Char) : splitCamelChars cs = spacedOut (capitalized cs) := by
  cases cs with
  | nil => rfl
  | cons c cs =>
    rw [splitCamelChars, capitalized, spacedOut_cons, spaceWords_eq (List.drop_zero) (by simp),
      if_neg (by simp)]
    rfl

/-! ## What spacing out keeps -/

theorem sublist_spacedFrom (name cs : List Char) (i : ℕ) :
    cs.Sublist ((cs.zipIdx i).flatMap (spacedAt name)) := by
  induction cs generalizing i with
  | nil => exact List.nil_sublist _
  | cons c cs ih =>
    have hpiece : [c].Sublist (spacedAt name (c, i)) := by
      unfold spacedAt
      split_ifs <;> simp
    rw [List.zipIdx_cons, List.flatMap_cons]
    exact hpiece.append (ih (i + 1))

theorem filter_spacedFrom (name cs : List Char) (i : ℕ) :
    ((cs.zipIdx i).flatMap (spacedAt name)).filter (· ≠ ' ') = cs.filter (· ≠ ' ') := by
  induction cs generalizing i with
  | nil => rfl
  | cons c cs ih =>
    have hpiece : (spacedAt name (c, i)).filter (· ≠ ' ') = [c].filter (· ≠ ' ') := by
      unfold spacedAt
      split_ifs <;> simp
    rw [List.zipIdx_cons, List.flatMap_cons, List.filter_append, hpiece, ih (i + 1),
      ← List.filter_append]
    rfl

/-! ## Where spaces do not stand -/

theorem getLast?_spacedFrom (name cs : List Char) (i : ℕ) :
    ((cs.zipIdx i).flatMap (spacedAt name)).getLast? = cs.getLast? := by
  obtain rfl | ⟨front, c, rfl⟩ := cs.eq_nil_or_concat
  · rfl
  · have hpiece (j : ℕ) : (spacedAt name (c, j)).getLast? = some c := by
      unfold spacedAt
      split_ifs <;> rfl
    simp only [List.concat_eq_append, List.zipIdx_append, List.flatMap_append,
      List.zipIdx_singleton, List.flatMap_singleton]
    rw [List.getLast?_append, hpiece, List.getLast?_concat]
    rfl

/-- No character of a name being a space, none is written next to another. -/
theorem single_spacedFrom {cs : List Char} (h : ' ' ∉ cs) (name : List Char) (i : ℕ) :
    ¬ [' ', ' '] <:+: (cs.zipIdx i).flatMap (spacedAt name) := by
  induction cs generalizing i with
  | nil => simp
  | cons c cs ih =>
    rw [List.mem_cons, not_or] at h
    have hrest := ih h.2 (i + 1)
    rw [List.zipIdx_cons, List.flatMap_cons, spacedAt]
    split_ifs
    · simp [List.infix_cons_iff, List.cons_prefix_cons, h.1, hrest]
    · simp [List.infix_cons_iff, List.cons_prefix_cons, h.1, hrest]

theorem evenlySpaced_spacedOut {name : List Char} (h : ' ' ∉ name) : EvenlySpaced (spacedOut name) where
  starts := by
    cases name with
    | nil => decide
    | cons c cs =>
      rw [spacedOut_cons, List.head?_cons]
      rintro hc
      exact h (Option.some.inj hc ▸ List.mem_cons_self)
  ends := by
    rw [spacedOut, getLast?_spacedFrom]
    exact fun hlast => h (List.mem_of_getLast? hlast)
  single := single_spacedFrom h name 0

/-! ## Capital forms -/

theorem ofNat_ne_space {n : ℕ} (h : 32 < n) : Char.ofNat n ≠ ' ' := by
  by_cases hvalid : n.isValidChar
  · have hchar : Char.ofNat n = Char.ofNatAux n hvalid := dif_pos hvalid
    intro hspace
    have hcode : n = 32 := congrArg Char.toNat (hchar.symm.trans hspace)
    exact Nat.ne_of_gt h hcode
  · have hchar : Char.ofNat n = '\x00' := dif_neg hvalid
    rw [hchar]
    decide

/-- What moves by a run of case mappings goes past the space. -/
theorem lt_of_shiftBy_toUpperRuns {n m : ℕ} (h : shiftBy toUpperRuns n = some m) : 32 < m := by
  have hruns : ∀ r ∈ toUpperRuns, 32 < Int.ofNat r.first + r.shift := by decide +kernel
  obtain ⟨r, hfind, rfl⟩ := Option.map_eq_some_iff.1 h
  have hshift := hruns r (List.mem_of_find?_eq_some hfind)
  have hhas := List.find?_some hfind
  simp only [CodeRun.has, Bool.and_eq_true, Nat.ble_eq] at hhas
  simp only [Int.ofNat_eq_natCast] at hshift ⊢
  omega

/-- No character but a space has a space for its capital form. -/
theorem head_upperChar_ne_space {c : Char} (h : c ≠ ' ') : (upperChar c).headD c ≠ ' ' := by
  have hsequences : ∀ e ∈ toUpperSequences, ∀ n ∈ e.2.head?, 32 < n := by decide +kernel
  unfold upperChar
  split_ifs with hascii
  · have hall : ∀ n < 128, n ≠ 32 → (Char.ofNat n).toUpper ≠ ' ' := by decide +kernel
    have hcode : c.toNat ≠ 32 := fun hc => h (by rw [← Char.ofNat_toNat c, hc])
    have hupper := hall c.toNat hascii hcode
    rwa [Char.ofNat_toNat] at hupper
  · split
    · rename_i seq hseq
      have hmem : (c.toNat, seq) ∈ toUpperSequences := by
        obtain ⟨_, _, hsplit, -⟩ := List.lookup_eq_some_iff.1 hseq
        simp [hsplit]
      cases seq with
      | nil => exact h
      | cons n rest => exact ofNat_ne_space (hsequences _ hmem n rfl)
    · cases hshift : shiftBy toUpperRuns c.toNat with
      | none => exact h
      | some m => exact ofNat_ne_space (lt_of_shiftBy_toUpperRuns hshift)

theorem space_notMem_capitalized {cs : List Char} (h : ' ' ∉ cs) : ' ' ∉ capitalized cs := by
  cases cs with
  | nil => exact h
  | cons c cs =>
    rw [List.mem_cons, not_or] at h
    rw [capitalized, List.mem_cons, not_or]
    exact ⟨(head_upperChar_ne_space (Ne.symm h.1)).symm, h.2⟩

/-- **Splitting a compound name has a meaning place by place.** A space is put before each character at
which a word starts, and nothing else changes after the first character has its capital form. -/
theorem splitCamel_eq_spacedOut_capitalized (name : String) :
    (splitCamel name).toList = spacedOut (capitalized name.toList) ∧
    (capitalized name.toList).Sublist (splitCamel name).toList ∧
    (splitCamel name).toList.filter (· ≠ ' ') = (capitalized name.toList).filter (· ≠ ' ') ∧
    (' ' ∉ name.toList → EvenlySpaced (splitCamel name).toList) := by
  have hspaced : (splitCamel name).toList = spacedOut (capitalized name.toList) := by
    rw [splitCamel, toList_onChars, splitCamelChars_eq_spacedOut]
  rw [hspaced]
  exact ⟨rfl, sublist_spacedFrom _ _ 0, filter_spacedFrom _ _ 0,
    fun h => evenlySpaced_spacedOut (space_notMem_capitalized h)⟩

/-- An acronym, a digit after one, and a small letter whose capital form is two letters. -/
theorem splitCamel_eq_spacedOut_capitalized_acronym :
    ' ' ∉ "ßHTTP2ServerIDs_X".toList ∧
      (splitCamel "ßHTTP2ServerIDs_X").toList = "SHTT P2 Server I Ds_ X".toList ∧
      EvenlySpaced (splitCamel "ßHTTP2ServerIDs_X").toList := by
  have hspace : ' ' ∉ "ßHTTP2ServerIDs_X".toList := by decide
  exact ⟨hspace, by decide +kernel, (splitCamel_eq_spacedOut_capitalized _).2.2.2 hspace⟩

end DocPages.Text
