import DocPages.Comment.Parse
import DocPages.Proofs.Comment.Marker
import DocPages.Proofs.Text.Lines

/-!
# Nesting

Lists are parsed by parsing the lines of their items again, to a depth that the number of characters
bounds. The bound never cuts anything off, because the lines of an item are shorter than those of its
list (`size_item_lt`), so the blocks of some lines satisfy the recursion without a bound
(`blocks_eq`). Everything about nested documents is proved from that equation by induction on the size.
-/

namespace DocPages.Comment

open Text

/-! ## Sizes -/

theorem size_cons (l : Line) (ls : List Line) : size (l :: ls) = l.length + size ls :=
  rfl

theorem size_le_of_sublist {ks ls : List Line} (h : ks.Sublist ls) : size ks ≤ size ls := by
  induction h with
  | slnil => exact Nat.le_refl _
  | cons l _ ih => rw [size_cons]; omega
  | cons_cons l _ ih => rw [size_cons, size_cons]; omega

theorem length_stripIndent_le (n : ℕ) (l : Line) : (stripIndent n l).length ≤ l.length := by
  fun_induction stripIndent n l with
  | case1 n c cs _ ih => rw [List.length_cons]; omega
  | case2 => exact Nat.le_refl _
  | case3 => exact Nat.le_refl _

theorem size_map_le {f : Line → Line} (h : ∀ l, (f l).length ≤ l.length) (ls : List Line) :
    size (ls.map f) ≤ size ls := by
  induction ls with
  | nil => exact Nat.le_refl _
  | cons l ls ih =>
    have := h l
    rw [List.map_cons, size_cons, size_cons]
    omega

theorem size_dedent_le (run : List Line) : size (dedent run) ≤ size run := by
  apply size_map_le
  intro l
  split
  · exact Nat.zero_le _
  · exact length_stripIndent_le _ l

/-! ## Indentation -/

theorem commonIndent_eq {run : List Line} {n : ℕ}
    (hle : ∀ l ∈ run, isBlankLine l = false → n ≤ indentation l)
    (hmem : ∃ l ∈ run, isBlankLine l = false ∧ indentation l = n) : commonIndent run = n := by
  have hmin : ((run.filter (!isBlankLine ·)).map indentation).min? = some n := by
    rw [List.min?_eq_some_iff]
    constructor
    · obtain ⟨l, hl, hblank, hn⟩ := hmem
      exact List.mem_map.2 ⟨l, List.mem_filter.2 ⟨hl, by simp [hblank]⟩, hn⟩
    · intro m hm
      obtain ⟨l, hl, rfl⟩ := List.mem_map.1 hm
      obtain ⟨hl, hblank⟩ := List.mem_filter.1 hl
      exact hle l hl (by simpa using hblank)
  unfold commonIndent
  rw [hmin]
  rfl

/-! ## Items -/

/-- An item is made of a line with a marker and of the lines below it. -/
theorem exists_of_mem_itemsFrom {base skip : ℕ} {ls : List Line} {i : RawItem}
    (h : i ∈ itemsFrom base skip ls) :
    ∃ l rest m, l :: rest <:+ ls ∧ itemMarker? base l = some m ∧
      i = ⟨m.number, takeToLast (!·.isEmpty)
        ((trimStart l).drop m.width :: (itemLines base (indentation l + m.width) rest).1)⟩ := by
  fun_induction itemsFrom base skip ls with
  | case1 => cases h
  | case2 skip l ls ih =>
    obtain ⟨k, rest, m, hsuffix, hm⟩ := ih h
    exact ⟨k, rest, m, hsuffix.trans (List.suffix_cons l ls), hm⟩
  | case3 l ls _ ih =>
    obtain ⟨k, rest, m, hsuffix, hm⟩ := ih h
    exact ⟨k, rest, m, hsuffix.trans (List.suffix_cons l ls), hm⟩
  | case4 l ls m hm text own ih =>
    rcases List.mem_cons.1 h with rfl | h
    · exact ⟨l, ls, m, List.suffix_refl _, hm, rfl⟩
    · obtain ⟨k, rest, m, hsuffix, hm⟩ := ih h
      exact ⟨k, rest, m, hsuffix.trans (List.suffix_cons l ls), hm⟩

theorem size_itemLines_le (base col : ℕ) (ls : List Line) :
    size (itemLines base col ls).1 ≤ size ls := by
  induction ls with
  | nil => exact Nat.le_refl _
  | cons l ls ih =>
    unfold itemLines
    split
    · exact Nat.zero_le _
    · have := length_stripIndent_le col l
      rw [size_cons, size_cons]
      omega

theorem marker?_of_itemMarker? {base : ℕ} {l : Line} {m : Marker}
    (h : itemMarker? base l = some m) : marker? (trimStart l) = some m := by
  unfold itemMarker? at h
  split_ifs at h
  exact h

/-- The lines of an item are shorter than those it is read from, which hold its marker too. -/
theorem size_lt_of_mem_itemsFrom {base skip : ℕ} {ls : List Line} {i : RawItem}
    (h : i ∈ itemsFrom base skip ls) : size i.lines < size ls := by
  obtain ⟨l, rest, m, hsuffix, hm, rfl⟩ := exists_of_mem_itemsFrom h
  obtain ⟨hwidth, hne⟩ := width_pos (marker?_of_itemMarker? hm)
  have hpos : 0 < (trimStart l).length := List.length_pos_of_ne_nil hne
  have htrim : (trimStart l).length ≤ l.length := (List.dropWhile_sublist _).length_le
  have hbelow := size_itemLines_le base (indentation l + m.width) rest
  have hkept := size_le_of_sublist (takeToLast_isPrefix (fun k : Line => !k.isEmpty)
    ((trimStart l).drop m.width :: (itemLines base (indentation l + m.width) rest).1)).sublist
  have hsize := size_le_of_sublist hsuffix.sublist
  rw [size_cons, List.length_drop] at hkept
  rw [size_cons] at hsize
  show size (takeToLast _ _) < _
  omega

theorem size_item_lt {run : List Line} {i : RawItem} (h : i ∈ (rawList run).items) :
    size i.lines < size run :=
  Nat.lt_of_lt_of_le (size_lt_of_mem_itemsFrom h) (size_dedent_le run)

/-! ## Chunks -/

theorem runTail_isPrefix (ls : List Line) : runTail ls <+: ls :=
  (takeToLast_isPrefix _ _).trans (List.takeWhile_prefix _)

theorem paragraphTail_isPrefix (ls : List Line) : paragraphTail ls <+: ls :=
  List.takeWhile_prefix _

theorem isBlankLine_of_mem_paragraphTail {k : Line} {ls : List Line} (h : k ∈ paragraphTail ls) :
    isBlankLine k = false := by
  have hk := List.mem_takeWhile_imp h
  rw [Bool.and_eq_true, Bool.not_eq_true'] at hk
  exact hk.1

/-- Blank and indented lines that do not end in a blank one are one run. -/
theorem runTail_eq_self {ls : List Line} (h : ∀ l ∈ ls, isBlankLine l = false → isIndented l = true)
    (hlast : ∀ l ∈ ls.getLast?, isBlankLine l = false) : runTail ls = ls := by
  have hall : ls.takeWhile (fun l => isBlankLine l || isIndented l) = ls := by
    apply List.takeWhile_eq_self_iff.2
    intro l hl
    by_cases hblank : isBlankLine l = true
    · rw [hblank]
      rfl
    · rw [h l hl (by simpa using hblank), Bool.or_true]
  unfold runTail
  rw [hall, takeToLast_eq_rdropWhile, List.rdropWhile_eq_self_iff]
  intro hne
  simp [hlast _ (List.getLast?_eq_some_getLast hne)]

/-- A line without a mark is no heading if the next one is not blank or there is none. -/
theorem headerText?_of_next {l : Line} {rest : List Line} (hmark : ¬ ['#', ' '] <+: l)
    (hrest : ∀ k ∈ rest.head?, isBlankLine k = false) : headerText? l rest = none := by
  have hfront : dropFront? ['#', ' '] l = none := by
    rw [← Option.not_isSome_iff_eq_none, isSome_dropFront?]
    exact hmark
  have hnext : (rest.head?.map isBlankLine).getD false = false := by
    cases hhead : rest.head? with
    | none => rfl
    | some k => exact hrest k hhead
  unfold headerText?
  rw [hfront, hnext]
  simp

theorem chunksFrom_of_blank (afterBlank : Bool) {l : Line} (hl : isBlankLine l = true)
    (ls : List Line) : chunksFrom afterBlank 0 (l :: ls) = chunksFrom true 0 ls := by
  rw [chunksFrom, if_pos hl]

theorem chunksFrom_of_text (afterBlank : Bool) {l : Line} (hl : isBlankLine l = false)
    (ls : List Line) :
    chunksFrom afterBlank 0 (l :: ls) =
      (chunkAt afterBlank l ls).1 :: chunksFrom false (chunkAt afterBlank l ls).2 ls := by
  rw [chunksFrom, if_neg (by simp [hl])]

theorem chunksFrom_length (ls : List Line) :
    ∀ afterBlank, chunksFrom afterBlank ls.length ls = [] := by
  induction ls with
  | nil => intro _; rfl
  | cons l ls ih => exact fun _ => ih _

/-- A chunk starts at a line that is not blank. -/
theorem exists_of_mem_chunksFrom {afterBlank : Bool} {skip : ℕ} {ls : List Line} {c : Chunk}
    (h : c ∈ chunksFrom afterBlank skip ls) :
    ∃ before l rest, l :: rest <:+ ls ∧ isBlankLine l = false ∧ (chunkAt before l rest).1 = c := by
  fun_induction chunksFrom afterBlank skip ls with
  | case1 => cases h
  | case2 afterBlank skip l ls ih =>
    obtain ⟨before, k, rest, hsuffix, hk⟩ := ih h
    exact ⟨before, k, rest, hsuffix.trans (List.suffix_cons l ls), hk⟩
  | case3 afterBlank l ls _ ih =>
    obtain ⟨before, k, rest, hsuffix, hk⟩ := ih h
    exact ⟨before, k, rest, hsuffix.trans (List.suffix_cons l ls), hk⟩
  | case4 afterBlank l ls hl chunk more hchunk ih =>
    rcases List.mem_cons.1 h with rfl | h
    · exact ⟨afterBlank, l, ls, List.suffix_refl _, by simpa using hl, by rw [hchunk]⟩
    · obtain ⟨before, k, rest, hsuffix, hk⟩ := ih h
      exact ⟨before, k, rest, hsuffix.trans (List.suffix_cons l ls), hk⟩

/-- The four kinds of chunks: what decides for each, what it holds, and how many further lines it
takes. -/
theorem chunkAt_cases (afterBlank : Bool) (l : Line) (rest : List Line) :
    (∃ text, afterBlank = true ∧ headerText? l rest = some text ∧
      chunkAt afterBlank l rest = (.header text, 0)) ∨
    (isIndented l = true ∧ (marker? (trimStart l)).isSome = true ∧
      chunkAt afterBlank l rest = (.list (l :: runTail rest), (runTail rest).length)) ∨
    (isIndented l = true ∧ (marker? (trimStart l)).isSome = false ∧
      chunkAt afterBlank l rest = (.code (l :: runTail rest), (runTail rest).length)) ∨
    (isIndented l = false ∧
      chunkAt afterBlank l rest =
        (.paragraph (l :: paragraphTail rest), (paragraphTail rest).length)) := by
  unfold chunkAt
  split
  · rename_i text htext
    split_ifs at htext with hb
    exact Or.inl ⟨text, hb, htext, rfl⟩
  · by_cases hindent : isIndented l = true
    · by_cases hmarker : (marker? (trimStart l)).isSome = true
      · exact Or.inr (Or.inl ⟨hindent, hmarker, by simp only [if_pos hindent, if_pos hmarker]⟩)
      · exact Or.inr (Or.inr (Or.inl ⟨hindent, by simpa using hmarker,
          by simp only [if_pos hindent, if_neg hmarker]⟩))
    · exact Or.inr (Or.inr (Or.inr ⟨by simpa using hindent, by rw [if_neg hindent]⟩))

/-- The run of a list stands in the text and starts with an item. -/
theorem list_mem_chunks {afterBlank : Bool} {skip : ℕ} {ls run : List Line}
    (h : Chunk.list run ∈ chunksFrom afterBlank skip ls) :
    run.Sublist ls ∧ ∃ l more, run = l :: more ∧ (marker? (trimStart l)).isSome = true := by
  obtain ⟨before, l, rest, hsuffix, -, hchunk⟩ := exists_of_mem_chunksFrom h
  rcases chunkAt_cases before l rest with ⟨text, -, -, heq⟩ | ⟨-, hmarker, heq⟩ | ⟨-, -, heq⟩ |
    ⟨-, heq⟩ <;> rw [heq] at hchunk <;> cases hchunk
  have hrun : l :: runTail rest <+: l :: rest :=
    (List.prefix_cons_inj l).2 (runTail_isPrefix rest)
  exact ⟨hrun.sublist.trans hsuffix.sublist, l, runTail rest, rfl, hmarker⟩

theorem chunks_eq_nil {ls : List Line} (h : ∀ l ∈ ls, isBlankLine l = true) :
    chunks ls = [] := by
  apply List.eq_nil_iff_forall_not_mem.2
  intro c hc
  obtain ⟨before, l, rest, hsuffix, hl, -⟩ := exists_of_mem_chunksFrom hc
  rw [h l (hsuffix.subset List.mem_cons_self)] at hl
  cases hl

/-! ## Blocks -/

/-- The blocks of a chunk depend on the parser of items only at its items. -/
theorem chunkBlocks_congr {level : ℕ} {sub sub' : List Line → List (Block (List Char))} {c : Chunk}
    (h : ∀ run, c = .list run → ∀ i ∈ (rawList run).items, sub i.lines = sub' i.lines) :
    chunkBlocks level sub c = chunkBlocks level sub' c := by
  cases c with
  | list run =>
    have hitems : ((rawList run).items.map fun i => Item.mk i.number (sub i.lines)) =
        (rawList run).items.map fun i => Item.mk i.number (sub' i.lines) :=
      List.map_congr_left fun i hi => by rw [h run rfl i hi]
    show listBlock level sub run = listBlock level sub' run
    simp only [listBlock, hitems]
  | header _ | code _ | paragraph _ => rfl

theorem flatMap_chunkBlocks_congr {level : ℕ} {sub sub' : List Line → List (Block (List Char))}
    {ls : List Line} (h : ∀ ks, size ks < size ls → sub ks = sub' ks) :
    (chunks ls).flatMap (chunkBlocks level sub) = (chunks ls).flatMap (chunkBlocks level sub') := by
  apply List.flatMap_congr
  intro c hc
  apply chunkBlocks_congr
  rintro run rfl i hi
  have hrun := size_le_of_sublist (list_mem_chunks hc).1
  exact h i.lines (Nat.lt_of_lt_of_le (size_item_lt hi) hrun)

theorem blocksWithin_of_size_eq_zero {level n : ℕ} {ls : List Line} (h : size ls = 0) :
    blocksWithin level n ls = [] := by
  have hblank : ∀ l ∈ ls, isBlankLine l = true := by
    intro l hl
    have hle := size_le_of_sublist (List.singleton_sublist.2 hl)
    rw [size_cons] at hle
    have hnil : l = [] := List.length_eq_zero_iff.1 (by omega)
    rw [hnil]
    rfl
  cases n <;> rw [blocksWithin, chunks_eq_nil hblank] <;> rfl

/-- All depths from the size of the lines on give the same blocks. -/
theorem blocksWithin_congr {level : ℕ} : ∀ {n m : ℕ} {ls : List Line}, size ls ≤ n → size ls ≤ m →
    blocksWithin level n ls = blocksWithin level m ls := by
  intro n
  induction n with
  | zero =>
    intro m ls hn _
    have hzero : size ls = 0 := Nat.le_zero.1 hn
    rw [blocksWithin_of_size_eq_zero hzero, blocksWithin_of_size_eq_zero hzero]
  | succ n ih =>
    intro m ls hn hm
    rcases m with _ | m
    · have hzero : size ls = 0 := Nat.le_zero.1 hm
      rw [blocksWithin_of_size_eq_zero hzero, blocksWithin_of_size_eq_zero hzero]
    · rw [blocksWithin, blocksWithin]
      exact flatMap_chunkBlocks_congr fun ks hks => ih (by omega) (by omega)

/-- The blocks of lines are those of their chunks, where items are parsed in the same way. -/
theorem blocks_eq (level : ℕ) (ls : List Line) :
    blocks level ls = (chunks ls).flatMap (chunkBlocks level (blocks level)) := by
  unfold blocks
  rw [blocksWithin_congr (Nat.le_refl (size ls)) (Nat.le_succ (size ls)), blocksWithin]
  exact flatMap_chunkBlocks_congr fun ks hks => blocksWithin_congr (Nat.le_of_lt hks) (Nat.le_refl _)

end DocPages.Comment
