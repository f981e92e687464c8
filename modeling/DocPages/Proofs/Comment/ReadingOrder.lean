import DocPages.Comment.Parse

/-!
# Reading order

What a document shows, at any depth of its lists, in the order in which it is read. `Block.gather` walks
the blocks once for every question of this kind; the spans of a document and its characters are two
instances.
-/

namespace DocPages

namespace Block

variable {α β γ : Type}

theorem mapAll_append (f : α → β) (bs cs : List (Block α)) :
    mapAll f (bs ++ cs) = mapAll f bs ++ mapAll f cs := by
  induction bs with
  | nil => rfl
  | cons b bs ih => rw [List.cons_append, mapAll, mapAll, ih, List.cons_append]

mutual

/-- What `ofText` gives for paragraphs and headings and `ofCode` for code, in reading order. -/
def gather (ofText : α → List β) (ofCode : String → List β) : Block α → List β
  | paragraph _ a => ofText a
  | header _ a => ofText a
  | code _ t => ofCode t
  | list _ _ items => gatherItems ofText ofCode items

@[inherit_doc gather]
def gatherItems (ofText : α → List β) (ofCode : String → List β) : List (Item α) → List β
  | [] => []
  | .mk _ blocks :: rest => gatherAll ofText ofCode blocks ++ gatherItems ofText ofCode rest

@[inherit_doc gather]
def gatherAll (ofText : α → List β) (ofCode : String → List β) : List (Block α) → List β
  | [] => []
  | b :: rest => gather ofText ofCode b ++ gatherAll ofText ofCode rest

end

section

variable (ofText : α → List β) (ofCode : String → List β)

theorem gatherAll_append (bs cs : List (Block α)) :
    gatherAll ofText ofCode (bs ++ cs) =
      gatherAll ofText ofCode bs ++ gatherAll ofText ofCode cs := by
  induction bs with
  | nil => rfl
  | cons b bs ih => rw [List.cons_append, gatherAll, gatherAll, ih, List.append_assoc]

theorem gatherAll_flatMap {δ : Type} (f : δ → List (Block α)) (xs : List δ) :
    gatherAll ofText ofCode (xs.flatMap f) =
      xs.flatMap fun x => gatherAll ofText ofCode (f x) := by
  induction xs with
  | nil => rfl
  | cons x xs ih => rw [List.flatMap_cons, List.flatMap_cons, gatherAll_append, ih]

theorem gatherAll_singleton (b : Block α) :
    gatherAll ofText ofCode [b] = gather ofText ofCode b := by
  rw [gatherAll, gatherAll, List.append_nil]

mutual

theorem gather_map (f : γ → α) : ∀ b : Block γ,
    gather ofText ofCode (map f b) = gather (fun a => ofText (f a)) ofCode b
  | paragraph _ _ => rfl
  | header _ _ => rfl
  | code _ _ => rfl
  | list _ _ items => by rw [map, gather, gather, gatherItems_map f items]

theorem gatherItems_map (f : γ → α) : ∀ items : List (Item γ),
    gatherItems ofText ofCode (mapItems f items) = gatherItems (fun a => ofText (f a)) ofCode items
  | [] => rfl
  | .mk _ blocks :: rest => by
    rw [mapItems, gatherItems, gatherItems, gatherAll_map f blocks, gatherItems_map f rest]

theorem gatherAll_map (f : γ → α) : ∀ bs : List (Block γ),
    gatherAll ofText ofCode (mapAll f bs) = gatherAll (fun a => ofText (f a)) ofCode bs
  | [] => rfl
  | b :: rest => by rw [mapAll, gatherAll, gatherAll, gather_map f b, gatherAll_map f rest]

end

mutual

theorem flatMap_gather (f : β → List γ) : ∀ b : Block α,
    (gather ofText ofCode b).flatMap f =
      gather (fun a => (ofText a).flatMap f) (fun t => (ofCode t).flatMap f) b
  | paragraph _ _ => rfl
  | header _ _ => rfl
  | code _ _ => rfl
  | list _ _ items => by rw [gather, gather, flatMap_gatherItems f items]

theorem flatMap_gatherItems (f : β → List γ) : ∀ items : List (Item α),
    (gatherItems ofText ofCode items).flatMap f =
      gatherItems (fun a => (ofText a).flatMap f) (fun t => (ofCode t).flatMap f) items
  | [] => rfl
  | .mk _ blocks :: rest => by
    rw [gatherItems, gatherItems, List.flatMap_append, flatMap_gatherAll f blocks,
      flatMap_gatherItems f rest]

theorem flatMap_gatherAll (f : β → List γ) : ∀ bs : List (Block α),
    (gatherAll ofText ofCode bs).flatMap f =
      gatherAll (fun a => (ofText a).flatMap f) (fun t => (ofCode t).flatMap f) bs
  | [] => rfl
  | b :: rest => by
    rw [gatherAll, gatherAll, List.flatMap_append, flatMap_gather f b, flatMap_gatherAll f rest]

end

end

section

variable {ofText : α → List β} {ofCode : String → List β} {x : β}

mutual

/-- What is gathered comes from a text of the block or from its code. -/
theorem mem_gather : ∀ {b : Block α}, x ∈ gather ofText ofCode b →
    (∃ a ∈ contents b, x ∈ ofText a) ∨ ∃ t, x ∈ ofCode t
  | paragraph _ a, h => Or.inl ⟨a, List.mem_singleton_self a, h⟩
  | header _ a, h => Or.inl ⟨a, List.mem_singleton_self a, h⟩
  | code _ t, h => Or.inr ⟨t, h⟩
  | list _ _ _, h => mem_gatherItems h

theorem mem_gatherItems : ∀ {items : List (Item α)}, x ∈ gatherItems ofText ofCode items →
    (∃ a ∈ itemContents items, x ∈ ofText a) ∨ ∃ t, x ∈ ofCode t
  | .mk _ blocks :: rest, h => by
    rw [itemContents]
    rcases List.mem_append.1 h with h | h
    · exact (mem_gatherAll h).imp_left fun ⟨a, ha, hx⟩ => ⟨a, List.mem_append_left _ ha, hx⟩
    · exact (mem_gatherItems h).imp_left fun ⟨a, ha, hx⟩ => ⟨a, List.mem_append_right _ ha, hx⟩

theorem mem_gatherAll : ∀ {bs : List (Block α)}, x ∈ gatherAll ofText ofCode bs →
    (∃ a ∈ allContents bs, x ∈ ofText a) ∨ ∃ t, x ∈ ofCode t
  | b :: rest, h => by
    rw [allContents]
    rcases List.mem_append.1 h with h | h
    · exact (mem_gather h).imp_left fun ⟨a, ha, hx⟩ => ⟨a, List.mem_append_left _ ha, hx⟩
    · exact (mem_gatherAll h).imp_left fun ⟨a, ha, hx⟩ => ⟨a, List.mem_append_right _ ha, hx⟩

end

variable {ofText' : α → List β}

mutual

/-- Two readings of texts that agree wherever `x` does not occur gather the same from a block in which
it does not occur. -/
theorem gather_congr (hagree : ∀ a, x ∉ ofText a → ofText a = ofText' a) :
    ∀ {b : Block α}, x ∉ gather ofText ofCode b →
      gather ofText ofCode b = gather ofText' ofCode b
  | paragraph _ a, h => hagree a h
  | header _ a, h => hagree a h
  | code _ _, _ => rfl
  | list _ _ _, h => gatherItems_congr hagree h

theorem gatherItems_congr (hagree : ∀ a, x ∉ ofText a → ofText a = ofText' a) :
    ∀ {items : List (Item α)}, x ∉ gatherItems ofText ofCode items →
      gatherItems ofText ofCode items = gatherItems ofText' ofCode items
  | [], _ => rfl
  | .mk _ blocks :: rest, h => by
    rw [gatherItems, List.mem_append, not_or] at h
    rw [gatherItems, gatherItems, gatherAll_congr hagree h.1, gatherItems_congr hagree h.2]

theorem gatherAll_congr (hagree : ∀ a, x ∉ ofText a → ofText a = ofText' a) :
    ∀ {bs : List (Block α)}, x ∉ gatherAll ofText ofCode bs →
      gatherAll ofText ofCode bs = gatherAll ofText' ofCode bs
  | [], _ => rfl
  | b :: rest, h => by
    rw [gatherAll, List.mem_append, not_or] at h
    rw [gatherAll, gatherAll, gather_congr hagree h.1, gatherAll_congr hagree h.2]

end

end

end Block

/-- All spans of a document, those of list items at any depth included. -/
def Doc.spans (d : Doc) : List Span :=
  Block.gatherAll id (fun t => [.raw t]) d.blocks

/-- The characters that a document shows, in reading order. -/
def Doc.shown (d : Doc) : List Char :=
  d.spans.flatMap fun s => s.display.toList

theorem Doc.shown_eq (level : Nat) (f : List Char → List Span) (bs : List (Block (List Char))) :
    Doc.shown ⟨level, Block.mapAll f bs⟩ =
      Block.gatherAll (fun cs => (f cs).flatMap fun s => s.display.toList) String.toList bs := by
  unfold Doc.shown Doc.spans
  rw [Block.gatherAll_map, Block.flatMap_gatherAll]
  simp [Span.display]

end DocPages
