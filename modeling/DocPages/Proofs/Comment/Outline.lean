import DocPages.Proofs.Comment.Definitions
import DocPages.Proofs.Comment.Nesting
import Mathlib.Data.List.Infix

/-!
# Outlines

An outline is a nested list as one writes it: items with a marker and one line of text, each with a list
of its own below it or not, and lists with or without empty lines between their items. The lines of a
list are indented by two (`Outline.lines_eq`); without that indentation its items start at column zero,
and the list below an item starts at the text of the item.
-/

namespace DocPages.Comment

open Text

/-! ## Outlines and how they are printed -/

/-- A marker as it is written: a bullet, or a number with a closing sign. -/
inductive ItemMark where
  | bullet (sign : Char) (isSign : isBullet sign = true)
  | ordered (number : ℕ) (pos : 1 ≤ number) (le : number ≤ 999999999) (close : Char)
      (isClose : close = '.' ∨ close = ')')

namespace ItemMark

def signs : ItemMark → List Char
  | bullet sign _ => [sign]
  | ordered number _ _ close _ => Nat.toDigits 10 number ++ [close]

def number? : ItemMark → Option ℕ
  | bullet _ _ => none
  | ordered number _ _ _ _ => some number

/-- The column of the text after the marker. -/
def width (mark : ItemMark) : ℕ :=
  mark.signs.length + 1

end ItemMark

/-- The text of an item: one line without white space at its ends, with single spaces inside, that
does not look like a heading. -/
structure ItemText where
  chars : List Char
  ne_nil : chars ≠ []
  head_not_blank : ∀ c ∈ chars.head?, isBlank c = false
  last_not_blank : ∀ c ∈ chars.getLast?, isBlank c = false
  eq_space_of_blank : ∀ c ∈ chars, isBlank c = true → c = ' '
  single_spaces : ¬ [' ', ' '] <:+: chars
  not_heading : ¬ ['#', ' '] <+: chars

/-- Whether a text can be that of an item. -/
def isItemText (cs : List Char) : Bool :=
  !cs.isEmpty && cs.head?.all (!isBlank ·) && cs.getLast?.all (!isBlank ·) &&
    cs.all (fun c => !isBlank c || c == ' ') && !(cs.tails.any [' ', ' '].isPrefixOf) &&
    !(['#', ' '].isPrefixOf cs)

theorem isItemText_iff {cs : List Char} : isItemText cs = true ↔
    cs ≠ [] ∧ (∀ c ∈ cs.head?, isBlank c = false) ∧ (∀ c ∈ cs.getLast?, isBlank c = false) ∧
      (∀ c ∈ cs, isBlank c = true → c = ' ') ∧ ¬ [' ', ' '] <:+: cs ∧ ¬ ['#', ' '] <+: cs := by
  have hends (o : Option Char) : o.all (!isBlank ·) = true ↔ ∀ c ∈ o, isBlank c = false := by
    cases o <;> simp
  have hspaces : [' ', ' '] <:+: cs ↔ cs.tails.any [' ', ' '].isPrefixOf = true := by
    simp only [List.infix_iff_prefix_suffix, List.any_eq_true, List.mem_tails,
      List.isPrefixOf_iff_prefix, and_comm]
  rw [hspaces, ← List.isPrefixOf_iff_prefix, ← hends, ← hends]
  simp only [isItemText, Bool.and_eq_true, Bool.not_eq_true', Bool.not_eq_true,
    List.isEmpty_eq_false_iff, List.all_eq_true, Bool.or_eq_true, beq_iff_eq, or_iff_not_imp_left,
    Bool.not_eq_false, and_assoc]

/-- The text of an item, from its characters. -/
def ItemText.ofChars (cs : List Char) (h : isItemText cs = true) : ItemText where
  chars := cs
  ne_nil := (isItemText_iff.1 h).1
  head_not_blank := (isItemText_iff.1 h).2.1
  last_not_blank := (isItemText_iff.1 h).2.2.1
  eq_space_of_blank := (isItemText_iff.1 h).2.2.2.1
  single_spaces := (isItemText_iff.1 h).2.2.2.2.1
  not_heading := (isItemText_iff.1 h).2.2.2.2.2

mutual

/-- A list, with or without empty lines between its items, of which there is at least one. -/
inductive Outline where
  | mk (spaced : Bool) (first : Entry) (others : List Entry)

/-- An item, with or without a list below it. -/
inductive Entry where
  | leaf (mark : ItemMark) (text : ItemText)
  | branch (mark : ItemMark) (text : ItemText) (below : Outline)

end

/-- A line moved to the right. Empty lines stay empty. -/
def indentBy (n : ℕ) (l : Line) : Line :=
  if l.isEmpty then l else List.replicate n ' ' ++ l

/-- The line of an item: two spaces, the marker, a space and the text. -/
def itemLine (mark : ItemMark) (text : ItemText) : Line :=
  ' ' :: ' ' :: (mark.signs ++ ' ' :: text.chars)

/-- What stands between two items. -/
def separator (spaced : Bool) : List Line :=
  if spaced then [[]] else []

mutual

def Outline.lines : Outline → List Line
  | .mk spaced first others => Entry.lines first ++ Entry.moreLines spaced others

def Entry.lines : Entry → List Line
  | .leaf mark text => [itemLine mark text]
  | .branch mark text below =>
    itemLine mark text :: (Outline.lines below).map (indentBy (2 + mark.width))

/-- The lines of the items after the first one. -/
def Entry.moreLines (spaced : Bool) : List Entry → List Line
  | [] => []
  | e :: es => separator spaced ++ Entry.lines e ++ Entry.moreLines spaced es

end

/-- An outline as text. -/
def Outline.print (o : Outline) : String :=
  String.ofList (joinLines o.lines)

/-- Two items apart from each other, the first with a list below it. -/
def nestedOutline : Outline :=
  .mk true
    (.branch (.ordered 10 (by decide) (by decide) '.' (.inl rfl))
      (.ofChars "First things".toList (by decide))
      (.mk false (.leaf (.bullet '-' rfl) (.ofChars "\x60#1\x60, first of all".toList (by decide))) []))
    [.leaf (.bullet '*' rfl) (.ofChars "#last".toList (by decide))]

example : nestedOutline.print =
    "  10. First things\n        - \x60#1\x60, first of all\n\n  * #last" := by
  decide +kernel

/-! ## The block of an outline -/

/-- Whether a list stands below the item. -/
def Entry.isBranch : Entry → Bool
  | .leaf _ _ => false
  | .branch _ _ _ => true

mutual

/-- The list block that an outline stands for. Its items are shown apart if they are written apart or
if one of them holds a list. -/
def Outline.block (level : ℕ) : Outline → Block (List Char)
  | .mk spaced first others =>
    .list level ((spaced && !others.isEmpty) || (first :: others).any Entry.isBranch)
      (Entry.item level first :: Entry.items level others)

def Entry.item (level : ℕ) : Entry → Item (List Char)
  | .leaf mark text => .mk mark.number? [.paragraph level text.chars]
  | .branch mark text below =>
    .mk mark.number? [.paragraph level text.chars, Outline.block level below]

def Entry.items (level : ℕ) : List Entry → List (Item (List Char))
  | [] => []
  | e :: es => Entry.item level e :: Entry.items level es

end

/-! ## Markers of an outline -/

theorem isDecimalDigit_of_isDigit {c : Char} (h : c.isDigit = true) : isDecimalDigit c = true := by
  have hcode := toNat_of_isDigit h
  unfold isDecimalDigit
  rw [inClass_of_ascii (by omega)]
  exact h

theorem isBlank_of_isDigit {c : Char} (h : c.isDigit = true) : isBlank c = false := by
  have hcode := toNat_of_isDigit h
  have hspace : ¬ c = ' ' := by
    rintro rfl
    exact absurd hcode.1 (by decide)
  have hcontrol : Nat.ble c.toNat 13 = false := by
    rw [← Bool.not_eq_true, Nat.ble_eq]
    omega
  unfold isBlank
  rw [inClass_of_ascii (by omega)]
  simp [isAsciiBlank, hspace, hcontrol]

/-- The digits of a number are read as that number. -/
theorem orderedNumber?_toDigits {n : ℕ} (hpos : 1 ≤ n) (hle : n ≤ 999999999) {close : Char}
    (hclose : close = '.' ∨ close = ')') :
    orderedNumber? (Nat.toDigits 10 n) (some close) = some n := by
  have hlength : (Nat.toDigits 10 n).length ≤ maxDigits :=
    (Nat.length_toDigits_le_iff (by omega) (by decide)).2 (by unfold maxDigits; omega)
  have hdigits : (Nat.toDigits 10 n).all Char.isDigit = true :=
    List.all_eq_true.2 fun c hc => Nat.isDigit_of_mem_toDigits (by omega) (by omega) hc
  have hvalue : (Nat.toDigits 10 n).foldl (fun n c => n * 10 + (c.toNat - '0'.toNat)) 0 = n := by
    simp only [Nat.mul_comm _ 10]
    exact Nat.ofDigitChars_ten_toDigits
  have hcond : ¬ ((Nat.toDigits 10 n).isEmpty || !Nat.ble (Nat.toDigits 10 n).length maxDigits
      || (some close != some '.' && some close != some ')')) = true := by
    have hble : Nat.ble (Nat.toDigits 10 n).length maxDigits = true := Nat.ble_eq.symm ▸ hlength
    rcases hclose with rfl | rfl <;> simp [Nat.toDigits_ne_nil, hble]
  unfold orderedNumber? digitsValue?
  rw [if_neg hcond, if_pos hdigits, hvalue]
  exact Option.filter_some_pos (by simp; omega)

namespace ItemMark

theorem signs_spec (mark : ItemMark) : Signs mark.number? mark.signs := by
  cases mark with
  | bullet sign isSign => exact .bullet isSign
  | ordered number pos le close isClose =>
    refine .ordered isClose (fun d hd => ?_) (orderedNumber?_toDigits pos le isClose)
    exact isDecimalDigit_of_isDigit (Nat.isDigit_of_mem_toDigits (by omega) (by omega) hd)

theorem signs_not_blank (mark : ItemMark) : ∀ c ∈ mark.signs, isBlank c = false := by
  intro c hc
  cases mark with
  | bullet sign isSign =>
    obtain rfl : c = sign := List.mem_singleton.1 hc
    rcases isBullet_iff.1 isSign with rfl | rfl | rfl | rfl <;> decide
  | ordered number pos le close isClose =>
    rcases List.mem_append.1 hc with hc | hc
    · exact isBlank_of_isDigit (Nat.isDigit_of_mem_toDigits (by omega) (by omega) hc)
    · obtain rfl : c = close := List.mem_singleton.1 hc
      rcases isClose with rfl | rfl <;> decide

end ItemMark

/-! ## Lines without the indentation of the list -/

/-- The line of an item that starts at column zero. -/
def flushLine (mark : ItemMark) (text : ItemText) : Line :=
  mark.signs ++ ([' '] ++ text.chars)

namespace Entry

def mark : Entry → ItemMark
  | leaf mark _ | branch mark _ _ => mark

def text : Entry → ItemText
  | leaf _ text | branch _ text _ => text

/-- The lines of the list below an item. -/
def belowLines : Entry → List Line
  | leaf _ _ => []
  | branch _ _ below => below.lines

/-- The lines of an item that starts at column zero. The list below it stands at its text. -/
def flush (e : Entry) : List Line :=
  flushLine e.mark e.text :: e.belowLines.map (indentBy e.mark.width)

/-- The lines of the items after the first one, with the list at column zero. -/
def moreFlush (spaced : Bool) : List Entry → List Line
  | [] => []
  | e :: es => separator spaced ++ e.flush ++ moreFlush spaced es

end Entry

/-- The lines of a list that starts at column zero. -/
def Outline.flush : Outline → List Line
  | .mk spaced first others => first.flush ++ Entry.moreFlush spaced others

theorem indentBy_nil (n : ℕ) : indentBy n [] = [] := rfl

theorem indentBy_of_ne_nil (n : ℕ) {l : Line} (h : l ≠ []) :
    indentBy n l = List.replicate n ' ' ++ l :=
  if_neg (by simpa using h)

theorem indentBy_eq_nil {n : ℕ} {l : Line} : indentBy n l = [] ↔ l = [] := by
  by_cases h : l = []
  · rw [h, indentBy_nil]
  · rw [indentBy_of_ne_nil n h]
    simp [h]

theorem indentBy_indentBy (m n : ℕ) (l : Line) : indentBy m (indentBy n l) = indentBy (m + n) l := by
  by_cases h : l = []
  · rw [h]
    rfl
  · have hn : indentBy n l ≠ [] := fun he => h (indentBy_eq_nil.1 he)
    rw [indentBy_of_ne_nil m hn, indentBy_of_ne_nil n h, indentBy_of_ne_nil (m + n) h,
      List.replicate_add, List.append_assoc]

theorem indentBy_flushLine (mark : ItemMark) (text : ItemText) :
    indentBy 2 (flushLine mark text) = itemLine mark text := by
  rw [indentBy_of_ne_nil 2 (by simp [flushLine])]
  rfl

theorem Entry.lines_eq (e : Entry) : e.lines = e.flush.map (indentBy 2) := by
  cases e with
  | leaf mark text =>
    rw [Entry.lines]
    show _ = [indentBy 2 (flushLine mark text)]
    rw [indentBy_flushLine]
  | branch mark text below =>
    rw [Entry.lines]
    show _ = indentBy 2 (flushLine mark text) ::
      (below.lines.map (indentBy mark.width)).map (indentBy 2)
    rw [indentBy_flushLine, List.map_map]
    congr 1
    apply List.map_congr_left
    intro l _
    exact (indentBy_indentBy 2 mark.width l).symm

theorem map_indentBy_separator (n : ℕ) (spaced : Bool) :
    (separator spaced).map (indentBy n) = separator spaced := by
  cases spaced <;> rfl

theorem Entry.moreLines_eq (spaced : Bool) (es : List Entry) :
    Entry.moreLines spaced es = (Entry.moreFlush spaced es).map (indentBy 2) := by
  induction es with
  | nil => rw [Entry.moreLines]; rfl
  | cons e es ih =>
    rw [Entry.moreLines, Entry.moreFlush, List.map_append, List.map_append, map_indentBy_separator,
      ← e.lines_eq, ih]

/-- A list is printed with all of its lines indented by two. -/
theorem Outline.lines_eq (o : Outline) : o.lines = o.flush.map (indentBy 2) := by
  obtain ⟨spaced, first, others⟩ := o
  rw [Outline.lines, Outline.flush, List.map_append, ← first.lines_eq, ← Entry.moreLines_eq]

/-! ## Printed lines -/

/-- A line whose white space are spaces, and which is not blank unless it is empty. -/
def Printed (l : Line) : Prop :=
  (∀ c ∈ l, isBlank c = true → c = ' ') ∧ (isBlankLine l = true → l = [])

theorem printed_nil : Printed [] := ⟨by simp, fun _ => rfl⟩

theorem printed_flushLine (mark : ItemMark) (text : ItemText) : Printed (flushLine mark text) := by
  obtain ⟨c, signs, hsigns⟩ := List.exists_cons_of_ne_nil mark.signs_spec.ne_nil
  have hc := mark.signs_not_blank c (hsigns ▸ List.mem_cons_self)
  refine ⟨fun d hd hblank => ?_, fun hblank => ?_⟩
  · rcases List.mem_append.1 hd with hd | hd
    · rw [mark.signs_not_blank d hd] at hblank
      cases hblank
    · rcases List.mem_cons.1 hd with rfl | hd
      · rfl
      · exact text.eq_space_of_blank d hd hblank
  · have hfirst := isBlankLine_iff.1 hblank c (by simp [flushLine, hsigns])
    rw [hc] at hfirst
    cases hfirst

theorem Printed.indentBy {l : Line} (h : Printed l) (n : ℕ) : Printed (indentBy n l) := by
  by_cases hl : l = []
  · rw [hl, indentBy_nil]
    exact printed_nil
  · rw [indentBy_of_ne_nil n hl]
    refine ⟨fun c hc hblank => ?_, fun hblank => ?_⟩
    · rcases List.mem_append.1 hc with hc | hc
      · exact List.eq_of_mem_replicate hc
      · exact h.1 c hc hblank
    · have hnil := h.2 (isBlankLine_iff.2 fun c hc =>
        isBlankLine_iff.1 hblank c (List.mem_append_right _ hc))
      exact absurd hnil hl

theorem printed_separator (spaced : Bool) : ∀ l ∈ separator spaced, Printed l := by
  intro l hl
  cases spaced with
  | false => cases hl
  | true =>
    rw [List.mem_singleton.1 hl]
    exact printed_nil

mutual

theorem Outline.printed_lines : ∀ (o : Outline), ∀ l ∈ o.lines, Printed l
  | .mk spaced first others, l, hl => by
    rw [Outline.lines] at hl
    rcases List.mem_append.1 hl with hl | hl
    · exact Entry.printed_lines first l hl
    · exact Entry.printed_moreLines spaced others l hl

theorem Entry.printed_lines : ∀ (e : Entry), ∀ l ∈ e.lines, Printed l
  | .leaf mark text, l, hl => by
    rw [Entry.lines, List.mem_singleton] at hl
    rw [hl, ← indentBy_flushLine]
    exact (printed_flushLine mark text).indentBy 2
  | .branch mark text below, l, hl => by
    rw [Entry.lines] at hl
    rcases List.mem_cons.1 hl with rfl | hl
    · rw [← indentBy_flushLine]
      exact (printed_flushLine mark text).indentBy 2
    · obtain ⟨k, hk, rfl⟩ := List.mem_map.1 hl
      exact (Outline.printed_lines below k hk).indentBy _

theorem Entry.printed_moreLines (spaced : Bool) : ∀ (es : List Entry),
    ∀ l ∈ Entry.moreLines spaced es, Printed l
  | e :: es, l, hl => by
    rw [Entry.moreLines] at hl
    rcases List.mem_append.1 hl with hl | hl
    · rcases List.mem_append.1 hl with hl | hl
      · exact printed_separator spaced l hl
      · exact Entry.printed_lines e l hl
    · exact Entry.printed_moreLines spaced es l hl

end

/-! ## Last lines -/

/-- Lines of which there are some, and the last of which is not empty. -/
def EndsFull (ls : List Line) : Prop :=
  ∃ front last, ls = front ++ [last] ∧ last ≠ []

theorem endsFull_singleton {l : Line} (h : l ≠ []) : EndsFull [l] :=
  ⟨[], l, rfl, h⟩

theorem EndsFull.append {ls : List Line} (h : EndsFull ls) (ks : List Line) : EndsFull (ks ++ ls) := by
  obtain ⟨front, last, rfl, hlast⟩ := h
  exact ⟨ks ++ front, last, (List.append_assoc _ _ _).symm, hlast⟩

theorem EndsFull.map_indentBy {ls : List Line} (h : EndsFull ls) (n : ℕ) :
    EndsFull (ls.map (indentBy n)) := by
  obtain ⟨front, last, rfl, hlast⟩ := h
  exact ⟨front.map (indentBy n), indentBy n last, by simp, fun hnil => hlast (indentBy_eq_nil.1 hnil)⟩

theorem EndsFull.getLast? {ls : List Line} (h : EndsFull ls) : ls.getLast? ≠ some [] := by
  obtain ⟨front, last, rfl, hlast⟩ := h
  simpa using hlast

/-- Empty lines after such lines do not count. -/
theorem EndsFull.takeToLast_append {ls : List Line} (h : EndsFull ls) {more : List Line}
    (hmore : ∀ l ∈ more, l = []) : takeToLast (fun l : Line => !l.isEmpty) (ls ++ more) = ls := by
  obtain ⟨front, last, rfl, hlast⟩ := h
  rw [takeToLast_append_of_forall (by simpa using hmore), takeToLast_eq_rdropWhile]
  exact List.rdropWhile_concat_neg _ _ _ (by simpa using hlast)

mutual

theorem Outline.endsFull_lines : ∀ o : Outline, EndsFull o.lines
  | .mk spaced first others => by
    rw [Outline.lines]
    exact Entry.endsFull_moreLines spaced others (Entry.endsFull_lines first)

theorem Entry.endsFull_lines : ∀ e : Entry, EndsFull e.lines
  | .leaf mark text => by
    rw [Entry.lines]
    exact endsFull_singleton (List.cons_ne_nil _ _)
  | .branch mark text below => by
    rw [Entry.lines]
    exact ((Outline.endsFull_lines below).map_indentBy _).append [_]

theorem Entry.endsFull_moreLines (spaced : Bool) : ∀ (es : List Entry) {ls : List Line},
    EndsFull ls → EndsFull (ls ++ Entry.moreLines spaced es)
  | [], ls, h => by
    rw [Entry.moreLines, List.append_nil]
    exact h
  | e :: es, ls, _ => by
    rw [Entry.moreLines, ← List.append_assoc]
    exact Entry.endsFull_moreLines spaced es (((Entry.endsFull_lines e).append _).append _)

end

end DocPages.Comment
