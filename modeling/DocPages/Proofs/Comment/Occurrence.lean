import DocPages.Proofs.Comment.Nesting

/-!
# Blocks at any depth

A block occurs in a document if it is one of its blocks or occurs in an item of one of its lists. Every
block that occurs in the blocks of some lines is the block of a chunk (`exists_chunk_of_occurs`): of a
chunk of those lines, or of the lines of an item, which are ends of lines of the run that holds the item
(`exists_suffix_of_mem_item`). So what holds of the blocks of a chunk holds at every depth.
-/

namespace DocPages

namespace Block

variable {α β : Type}

/-- The block stands among the given ones, or in an item of a list that does, at any depth. -/
inductive Occurs (b : Block α) : List (Block α) → Prop
  | here {bs : List (Block α)} (h : b ∈ bs) : Occurs b bs
  | inside {bs : List (Block α)} {level : ℕ} {between : Bool} {items : List (Item α)} {i : Item α}
      (hlist : list level between items ∈ bs) (hi : i ∈ items) (h : Occurs b i.blocks) : Occurs b bs

theorem Occurs.mono {b : Block α} {bs cs : List (Block α)} (h : Occurs b bs) (hsub : bs ⊆ cs) :
    Occurs b cs := by
  cases h with
  | here h => exact .here (hsub h)
  | inside hlist hi h => exact .inside (hsub hlist) hi h

theorem Occurs.trans {b c : Block α} {bs : List (Block α)} (hc : Occurs c [b]) (hb : Occurs b bs) :
    Occurs c bs := by
  induction hb with
  | here h => exact hc.mono (List.cons_subset.2 ⟨h, List.nil_subset _⟩)
  | inside hlist hi _ ih => exact .inside hlist hi ih

/-- The items of a list; other blocks have none. -/
def items : Block α → List (Item α)
  | list _ _ items => items
  | _ => []

theorem Occurs.of_mem_items {b outer : Block α} {bs : List (Block α)} {i : Item α} (houter : outer ∈ bs)
    (hi : i ∈ outer.items) (h : Occurs b i.blocks) : Occurs b bs := by
  cases outer with
  | paragraph | header | code => cases hi
  | list => exact .inside houter hi h

/-! ## Resolving texts keeps the shape -/

theorem mapAll_eq_map (f : α → β) (bs : List (Block α)) : mapAll f bs = bs.map (map f) := by
  induction bs with
  | nil => rfl
  | cons b bs ih => rw [mapAll, ih, List.map_cons]

theorem mapItems_eq_map (f : α → β) (items : List (Item α)) :
    mapItems f items = items.map fun i => .mk i.number (mapAll f i.blocks) := by
  induction items with
  | nil => rfl
  | cons i items ih =>
    obtain ⟨n, blocks⟩ := i
    rw [mapItems, ih, List.map_cons]
    rfl

theorem exists_of_mem_mapAll {f : α → β} {bs : List (Block α)} {b : Block β}
    (h : b ∈ mapAll f bs) : ∃ a ∈ bs, map f a = b := by
  rw [mapAll_eq_map] at h
  exact List.mem_map.1 h

theorem list_mem_mapAll {f : α → β} {bs : List (Block α)} {level : ℕ} {between : Bool}
    {items : List (Item β)} (h : list level between items ∈ mapAll f bs) :
    ∃ items', list level between items' ∈ bs ∧ items = mapItems f items' := by
  obtain ⟨a, ha, hmap⟩ := exists_of_mem_mapAll h
  cases a <;> simp only [map, list.injEq, reduceCtorEq] at hmap
  obtain ⟨rfl, rfl, rfl⟩ := hmap
  exact ⟨_, ha, rfl⟩

/-- A block that occurs after texts are replaced comes from one that occurred before. -/
theorem Occurs.of_mapAll {f : α → β} {bs : List (Block α)} {b : Block β}
    (h : Occurs b (mapAll f bs)) : ∃ a, Occurs a bs ∧ map f a = b := by
  generalize hcs : mapAll f bs = cs at h
  induction h generalizing bs with
  | here h =>
    subst hcs
    obtain ⟨a, ha, hmap⟩ := exists_of_mem_mapAll h
    exact ⟨a, .here ha, hmap⟩
  | inside hlist hi _ ih =>
    subst hcs
    obtain ⟨items, hitems, rfl⟩ := list_mem_mapAll hlist
    rw [mapItems_eq_map] at hi
    obtain ⟨j, hj, rfl⟩ := List.mem_map.1 hi
    obtain ⟨a, ha, hmap⟩ := ih rfl
    exact ⟨a, .inside hitems hj ha, hmap⟩

end Block

namespace Comment

open Text

/-! ## Lines of items -/

theorem stripIndent_isSuffix (n : ℕ) (l : Line) : stripIndent n l <:+ l := by
  fun_induction stripIndent n l with
  | case1 n c cs _ ih => exact ih.trans (List.suffix_cons c cs)
  | case2 => exact List.suffix_refl _
  | case3 => exact List.suffix_refl _

theorem exists_suffix_of_mem_dedent {run : List Line} {k : Line} (h : k ∈ dedent run) :
    ∃ l ∈ run, k <:+ l := by
  obtain ⟨l, hl, rfl⟩ := List.mem_map.1 h
  refine ⟨l, hl, ?_⟩
  split
  · exact List.nil_suffix
  · exact stripIndent_isSuffix _ l

theorem exists_suffix_of_mem_itemLines {base col : ℕ} {ls : List Line} {k : Line}
    (h : k ∈ (itemLines base col ls).1) : ∃ l ∈ ls, k <:+ l := by
  induction ls with
  | nil => cases h
  | cons l ls ih =>
    unfold itemLines at h
    split at h
    · cases h
    · rcases List.mem_cons.1 h with rfl | h
      · exact ⟨l, List.mem_cons_self, stripIndent_isSuffix col l⟩
      · obtain ⟨m, hm, hk⟩ := ih h
        exact ⟨m, List.mem_cons_of_mem l hm, hk⟩

/-- The lines of an item are ends of lines of its run. -/
theorem exists_suffix_of_mem_item {run : List Line} {i : RawItem} (hi : i ∈ (rawList run).items)
    {k : Line} (hk : k ∈ i.lines) : ∃ l ∈ run, k <:+ l := by
  obtain ⟨l, rest, m, hsuffix, -, rfl⟩ := exists_of_mem_itemsFrom hi
  have hdedent : ∃ d ∈ dedent run, k <:+ d := by
    have hk' := (takeToLast_isPrefix _ _).subset hk
    rcases List.mem_cons.1 hk' with rfl | hk'
    · exact ⟨l, hsuffix.subset List.mem_cons_self,
        (List.drop_suffix _ _).trans (List.dropWhile_suffix _)⟩
    · obtain ⟨d, hd, hkd⟩ := exists_suffix_of_mem_itemLines hk'
      exact ⟨d, hsuffix.subset (List.mem_cons_of_mem l hd), hkd⟩
  obtain ⟨d, hd, hkd⟩ := hdedent
  obtain ⟨r, hr, hdr⟩ := exists_suffix_of_mem_dedent hd
  exact ⟨r, hr, hkd.trans hdr⟩

/-! ## Blocks of chunks -/

/-- The items of a list block: those of the run that have blocks. -/
def listItems (sub : List Line → List (Block (List Char))) (run : List Line) :
    List (Item (List Char)) :=
  ((rawList run).items.map fun i => Item.mk i.number (sub i.lines)).filter
    fun i => !i.blocks.isEmpty

theorem mem_listBlock {level : ℕ} {sub : List Line → List (Block (List Char))} {run : List Line}
    {b : Block (List Char)} (h : b ∈ listBlock level sub run) :
    listItems sub run ≠ [] ∧
      b = .list level ((rawList run).blankBetween ||
        (listItems sub run).any fun i => i.blocks.length != 1) (listItems sub run) := by
  simp only [listBlock] at h
  split_ifs at h with hnone
  · cases h
  · exact ⟨fun hnil => hnone (List.isEmpty_iff.2 hnil), List.mem_singleton.1 h⟩

theorem exists_raw_of_mem_listItems {sub : List Line → List (Block (List Char))} {run : List Line}
    {i : Item (List Char)} (h : i ∈ listItems sub run) :
    ∃ raw ∈ (rawList run).items, i = .mk raw.number (sub raw.lines) ∧ sub raw.lines ≠ [] := by
  obtain ⟨hmem, hblocks⟩ := List.mem_filter.1 h
  obtain ⟨raw, hraw, rfl⟩ := List.mem_map.1 hmem
  exact ⟨raw, hraw, rfl, by simpa [Item.blocks] using hblocks⟩

/-- Every block at any depth is the block of a chunk, of lines that are ends of the given ones. -/
theorem exists_chunk_of_occurs {level : ℕ} {ls : List Line} {b : Block (List Char)}
    (h : b.Occurs (blocks level ls)) :
    ∃ ks c, (∀ k ∈ ks, ∃ l ∈ ls, k <:+ l) ∧ c ∈ chunks ks ∧
      b ∈ chunkBlocks level (blocks level) c := by
  generalize hbs : blocks level ls = bs at h
  induction h generalizing ls with
  | here h =>
    rw [← hbs, blocks_eq] at h
    obtain ⟨c, hc, hb⟩ := List.mem_flatMap.1 h
    exact ⟨ls, c, fun k hk => ⟨k, hk, List.suffix_refl k⟩, hc, hb⟩
  | inside hlist hi _ ih =>
    rw [← hbs, blocks_eq] at hlist
    obtain ⟨c, hc, hb⟩ := List.mem_flatMap.1 hlist
    cases c <;> simp only [chunkBlocks, List.mem_singleton, reduceCtorEq] at hb
    rename_i run
    obtain ⟨-, hblock⟩ := mem_listBlock hb
    cases hblock
    obtain ⟨raw, hraw, rfl, -⟩ := exists_raw_of_mem_listItems hi
    obtain ⟨ks, d, hks, hd, hbd⟩ := ih rfl
    refine ⟨ks, d, fun k hk => ?_, hd, hbd⟩
    obtain ⟨m, hm, hkm⟩ := hks k hk
    obtain ⟨r, hr, hmr⟩ := exists_suffix_of_mem_item hraw hm
    exact ⟨r, (list_mem_chunks hc).1.subset hr, hkm.trans hmr⟩

end Comment

end DocPages
