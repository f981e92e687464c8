import DocPages.Comment.ListRun
import Mathlib.Algebra.Group.Nat.Defs
import Mathlib.Data.List.TakeWhile

/-!
# List markers

A line has a marker exactly if it starts with the signs of one, that is a bullet or a number with a
closing sign, and spaces or tabs follow unless the line ends (`marker?_of_signs`,
`exists_signs_of_marker?`).
-/

namespace DocPages.Comment

open Text

/-- White space that may stand between a marker and its text. -/
def isGap (c : Char) : Bool :=
  c == ' ' || c == '\t'

/-- The signs of a marker: a bullet, or the digits of a positive number and a closing sign. -/
inductive Signs : Option ℕ → List Char → Prop
  | bullet {b : Char} (hb : isBullet b = true) : Signs none [b]
  | ordered {n : ℕ} {digits : List Char} {close : Char} (hclose : close = '.' ∨ close = ')')
      (hdigits : ∀ d ∈ digits, isDecimalDigit d = true)
      (hnumber : orderedNumber? digits (some close) = some n) : Signs (some n) (digits ++ [close])

theorem Signs.ne_nil {number : Option ℕ} {signs : List Char} (h : Signs number signs) :
    signs ≠ [] := by
  cases h <;> simp

theorem isBullet_iff {c : Char} :
    isBullet c = true ↔ c = '-' ∨ c = '*' ∨ c = '+' ∨ c = '•' := by
  simp [isBullet, or_assoc]

theorem not_decimal_of_bullet {c : Char} (h : isBullet c = true) : isDecimalDigit c = false := by
  rcases isBullet_iff.1 h with rfl | rfl | rfl | rfl <;> decide

theorem not_decimal_of_close {c : Char} (h : c = '.' ∨ c = ')') : isDecimalDigit c = false := by
  rcases h with rfl | rfl <;> decide

/-! ## Reading a marker -/

theorem exists_gap_of_markerGap? {cs : List Char} {n : ℕ} (h : markerGap? cs = some n) :
    ∃ gap rest, cs = gap ++ rest ∧ gap.length = n ∧ ∀ c ∈ gap, isGap c = true := by
  unfold markerGap? at h
  split at h
  · cases h
    exact ⟨[], [], rfl, rfl, by simp⟩
  · split at h
    · cases h
    · cases h
      exact ⟨_, _, List.takeWhile_append_dropWhile.symm, rfl,
        fun c hc => List.mem_takeWhile_imp hc⟩

theorem close_of_orderedNumber? {digits : List Char} {close : Option Char} {n : ℕ}
    (h : orderedNumber? digits close = some n) :
    digits ≠ [] ∧ (close = some '.' ∨ close = some ')') := by
  unfold orderedNumber? at h
  split_ifs at h with hcond
  simp only [Bool.or_eq_true, Bool.and_eq_true, bne_iff_ne, not_or, not_and, not_not,
    List.isEmpty_iff] at hcond
  obtain ⟨⟨hne, -⟩, hclose⟩ := hcond
  by_cases hdot : close = some '.'
  · exact ⟨hne, Or.inl hdot⟩
  · exact ⟨hne, Or.inr (hclose hdot)⟩

/-- A line with a marker starts with its signs and a gap. -/
theorem exists_signs_of_marker? {l : Line} {m : Marker} (h : marker? l = some m) :
    ∃ signs gap rest, l = signs ++ (gap ++ rest) ∧ m.width = signs.length + gap.length ∧
      Signs m.number signs ∧ ∀ c ∈ gap, isGap c = true := by
  unfold marker? at h
  split at h
  · cases h
  · rename_i c cs
    split_ifs at h with hbullet
    · obtain ⟨n, hgap, rfl⟩ := Option.map_eq_some_iff.1 h
      obtain ⟨gap, rest, rfl, rfl, hall⟩ := exists_gap_of_markerGap? hgap
      exact ⟨[c], gap, rest, rfl, rfl, .bullet hbullet, hall⟩
    · simp only at h
      split at h
      · rename_i n k hnumber hgap
        cases h
        obtain ⟨gap, rest, htail, rfl, hall⟩ := exists_gap_of_markerGap? hgap
        obtain ⟨-, hclose⟩ := close_of_orderedNumber? hnumber
        have hdrop := List.prefix_iff_eq_append.1 (List.takeWhile_prefix (l := c :: cs) isDecimalDigit)
        have hdigits : ∀ d ∈ (c :: cs).takeWhile isDecimalDigit, isDecimalDigit d = true :=
          fun d hd => List.mem_takeWhile_imp hd
        rcases hrest : (c :: cs).drop ((c :: cs).takeWhile isDecimalDigit).length with _ | ⟨close, after⟩
        · rw [hrest] at hclose
          simp at hclose
        · rw [hrest] at htail hclose hnumber hdrop
          simp only [List.tail_cons, List.head?_cons, Option.some.injEq] at htail hclose hnumber
          refine ⟨(c :: cs).takeWhile isDecimalDigit ++ [close], gap, rest, ?_, ?_,
            .ordered hclose hdigits hnumber, hall⟩
          · rw [← htail, List.append_assoc]
            exact hdrop.symm
          · simp
      · cases h

/-- A marker takes up at least one character. -/
theorem width_pos {l : Line} {m : Marker} (h : marker? l = some m) : 0 < m.width ∧ l ≠ [] := by
  obtain ⟨signs, gap, rest, rfl, hwidth, hsigns, -⟩ := exists_signs_of_marker? h
  have hpos := List.length_pos_iff.2 hsigns.ne_nil
  exact ⟨by omega, by simp [hsigns.ne_nil]⟩

/-! ## Numbers -/

theorem toNat_of_isDigit {c : Char} (h : c.isDigit = true) : 48 ≤ c.toNat ∧ c.toNat ≤ 57 := by
  simp only [Char.isDigit, Bool.and_eq_true, decide_eq_true_eq] at h
  exact h

theorem foldl_digits_lt {cs : List Char} (h : ∀ c ∈ cs, c.isDigit = true) (n : ℕ) :
    cs.foldl (fun n c => n * 10 + (c.toNat - '0'.toNat)) n < (n + 1) * 10 ^ cs.length := by
  induction cs generalizing n with
  | nil => simp
  | cons c cs ih =>
    have hc : c.toNat - '0'.toNat < 10 := by
      have hcode := toNat_of_isDigit (h c List.mem_cons_self)
      have hzero : '0'.toNat = 48 := rfl
      omega
    have hrest := ih (fun d hd => h d (List.mem_cons_of_mem c hd)) (n * 10 + (c.toNat - '0'.toNat))
    have hstep : (n * 10 + (c.toNat - '0'.toNat) + 1) * 10 ^ cs.length ≤
        (n + 1) * 10 * 10 ^ cs.length := Nat.mul_le_mul_right _ (by omega)
    rw [List.foldl_cons, List.length_cons, Nat.pow_succ', ← Nat.mul_assoc]
    omega

/-- The number of an item is positive and has at most nine digits. -/
theorem bounds_of_orderedNumber? {digits : List Char} {close : Option Char} {n : ℕ}
    (h : orderedNumber? digits close = some n) : 1 ≤ n ∧ n ≤ 999999999 := by
  unfold orderedNumber? at h
  split_ifs at h with hcond
  simp only [Bool.or_eq_true, not_or, Bool.not_eq_true, Bool.not_eq_false', Nat.ble_eq] at hcond
  obtain ⟨hvalue, hpos⟩ := Option.filter_eq_some_iff.1 h
  unfold digitsValue? at hvalue
  split_ifs at hvalue with hdigits
  cases hvalue
  have hlt := foldl_digits_lt (List.all_eq_true.1 hdigits) 0
  have hlength : 10 ^ digits.length ≤ 10 ^ maxDigits :=
    Nat.pow_le_pow_right (by decide) hcond.1.2
  have hmax : 10 ^ maxDigits = 1000000000 := by decide
  simp only [decide_eq_true_eq] at hpos
  omega

theorem Signs.bounds {n : ℕ} {signs : List Char} (h : Signs (some n) signs) :
    1 ≤ n ∧ n ≤ 999999999 := by
  cases h with
  | ordered _ _ hnumber => exact bounds_of_orderedNumber? hnumber

/-! ## Writing a marker -/

theorem markerGap?_of_gap {gap rest : List Char} (hne : gap ≠ []) (hgap : ∀ c ∈ gap, isGap c = true)
    (hrest : ∀ c ∈ rest.head?, isGap c = false) : markerGap? (gap ++ rest) = some gap.length := by
  have htake : (gap ++ rest).takeWhile (fun c => c == ' ' || c == '\t') = gap := by
    show (gap ++ rest).takeWhile isGap = gap
    rw [List.takeWhile_append_of_pos hgap]
    cases rest with
    | nil => exact List.append_nil _
    | cons c rest =>
      have hc : ¬ isGap c = true := by simp [hrest c rfl]
      rw [List.takeWhile_cons_of_neg hc, List.append_nil]
  obtain ⟨c, gap, rfl⟩ := List.exists_cons_of_ne_nil hne
  rw [List.cons_append] at htake ⊢
  simp only [markerGap?, htake]
  rfl

/-- The signs of a marker and a gap make a marker. -/
theorem marker?_of_signs {number : Option ℕ} {signs gap rest : List Char} (hsigns : Signs number signs)
    (hne : gap ≠ []) (hgap : ∀ c ∈ gap, isGap c = true) (hrest : ∀ c ∈ rest.head?, isGap c = false) :
    marker? (signs ++ (gap ++ rest)) = some ⟨number, signs.length + gap.length⟩ := by
  have hread := markerGap?_of_gap hne hgap hrest
  cases hsigns with
  | bullet hb =>
    show marker? (_ :: (gap ++ rest)) = _
    simp only [marker?, if_pos hb, hread]
    rfl
  | ordered hclose hdigits hnumber =>
    rename_i n digits close
    obtain ⟨hdne, -⟩ := close_of_orderedNumber? hnumber
    obtain ⟨d, ds, rfl⟩ := List.exists_cons_of_ne_nil hdne
    have hdecimal := hdigits d List.mem_cons_self
    have hd : ¬ isBullet d = true := fun hb => by simp [not_decimal_of_bullet hb] at hdecimal
    have htake : ((d :: ds) ++ (close :: (gap ++ rest))).takeWhile isDecimalDigit = d :: ds := by
      rw [List.takeWhile_append_of_pos hdigits,
        List.takeWhile_cons_of_neg (by simp [not_decimal_of_close hclose]), List.append_nil]
    have hdrop : ((d :: ds) ++ (close :: (gap ++ rest))).drop (d :: ds).length =
        close :: (gap ++ rest) := List.drop_left
    have hshape : (d :: ds) ++ [close] ++ (gap ++ rest) =
        d :: (ds ++ (close :: (gap ++ rest))) := by simp
    rw [List.cons_append] at htake hdrop
    rw [hshape]
    simp only [marker?, if_neg hd, htake, hdrop, List.head?_cons, List.tail_cons, hnumber, hread]
    simp

end DocPages.Comment
