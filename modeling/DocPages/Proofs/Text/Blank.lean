import DocPages.Text.Blank
import DocPages.Text.Casing
import DocPages.Text.WordChar
import Mathlib.Tactic.SplitIfs

/-!
# White space against other classes

White space has few members, so what holds of each of them holds of all white space (`forall_isBlank`). It
has no capitals and no characters of words.
-/

namespace DocPages.Text

/-- All code points of white space. -/
def blankCodes : List Nat :=
  32 :: List.range' 9 5 ++ blankRuns.flatMap fun r => List.range' r.first (r.last + 1 - r.first)

theorem mem_blankCodes {c : Char} (h : isBlank c = true) : c.toNat ∈ blankCodes := by
  unfold isBlank inClass at h
  unfold blankCodes
  simp only [List.cons_append, List.mem_cons, List.mem_append, List.mem_flatMap, List.mem_range'_1]
  split_ifs at h
  · simp only [isAsciiBlank, Bool.or_eq_true, beq_iff_eq, Bool.and_eq_true, Nat.ble_eq] at h
    rcases h with rfl | ⟨hfirst, hlast⟩
    · exact Or.inl rfl
    · exact Or.inr (Or.inl ⟨hfirst, by omega⟩)
  · obtain ⟨r, hr, hhas⟩ := List.any_eq_true.1 h
    simp only [CodeRun.has, Bool.and_eq_true, Nat.ble_eq] at hhas
    exact Or.inr (Or.inr ⟨r, hr, hhas.1.1, by omega⟩)

/-- What holds of every member of the class, one by one, holds of all white space. -/
theorem forall_isBlank {p : Char → Prop} (h : ∀ n ∈ blankCodes, p (Char.ofNat n)) {c : Char}
    (hc : isBlank c = true) : p c := by
  rw [← Char.ofNat_toNat c]
  exact h c.toNat (mem_blankCodes hc)

section

variable {c : Char} (h : isBlank c = true)
include h

theorem isUppercase_of_isBlank : isUppercase c = false :=
  forall_isBlank (p := fun c => isUppercase c = false) (by decide +kernel) h

theorem isWordChar_of_isBlank : isWordChar c = false :=
  forall_isBlank (p := fun c => isWordChar c = false) (by decide +kernel) h

end

end DocPages.Text
