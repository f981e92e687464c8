import DocPages.Proofs.Render.Words
import DocPages.Proofs.Comment.Occurrence
import Mathlib.Data.Nat.Digits.Defs

/-!
# The pieces of a page

What a page consists of, without templates: a list of pieces in a fixed order, each of which a dialect
writes or fails to write. The blocks of a doc comment are written by recursion over their structure.

Templates read numbers and positions as machine words, so the way in which they are read is a parameter
(`Reading`). Reading words gives what exact reading gives or fails, and it fails only for what is no word
(`Block.agree_write`, `agree_compose`).
-/

namespace DocPages.Render

open Template Text

/-! ## Failures -/

/-- A failure to write is a failure of the operation. -/
def raised (r : Except DialectError String) : Except Error String :=
  r.mapError fun e => ⟨.invalidOperation, some e⟩

theorem piece_eq_map_raised (r : Except DialectError String) : piece r = (raised r).map .str := by
  cases r <;> rfl

end DocPages.Render

/-! ## Doc comments -/

namespace DocPages

open Template Text Render

/-- The markup of a span. -/
def Span.markup (d : Dialect) : Span → String
  | .text t => Dialect.escape t
  | .link t url => Dialect.link (Dialect.escape t) url
  | .localLink t anchor => Dialect.link (Dialect.escape t) (d.rawLocalHref anchor)
  | .raw t | .autolink t => t

/-- The markup of spans one after another. -/
def Dialect.inline (d : Dialect) (spans : List Span) : String :=
  String.join (spans.map (Span.markup d))

/-- What stands in front of an item: its number, or a dash. -/
def itemMarker : Option ℕ → String
  | some n => Nat.repr n ++ ". "
  | none => "- "

/-- What stands between the items of a list. -/
def itemGap (between : Bool) : String :=
  if between then "\n\n" else "\n"

mutual

/-- The text of a block. -/
def Block.write (rd : Reading) (d : Dialect) : Block (List Span) → Except Error String
  | .paragraph _ spans => .ok (d.inline spans ++ "\n\n")
  | .header level spans => do
    let level ← rd.count level
    raised (Dialect.rawHeader level (d.inline spans))
  | .code _ text => .ok (d.codeBlock "" text)
  | .list _ between items => do
    let texts ← Item.writeAll rd d items
    return (itemGap between).intercalate texts ++ "\n\n"

/-- The text of blocks one after another. -/
def Block.writeAll (rd : Reading) (d : Dialect) : List (Block (List Span)) → Except Error String
  | [] => .ok ""
  | b :: bs => do
    let text ← Block.write rd d b
    let rest ← Block.writeAll rd d bs
    return text ++ rest

/-- The text of an item. Its lines hang under its marker. -/
def Item.write (rd : Reading) (d : Dialect) : Item (List Span) → Except Error String
  | .mk number blocks => do
    let text ← Block.writeAll rd d blocks
    let width ← rd.count (itemMarker number).length
    return itemMarker number ++ onChars (hangingIndent width) (onChars trim text)

/-- The texts of items. -/
def Item.writeAll (rd : Reading) (d : Dialect) : List (Item (List Span)) → Except Error (List String)
  | [] => .ok []
  | i :: items => do
    let text ← Item.write rd d i
    let texts ← Item.writeAll rd d items
    return text :: texts

end

theorem Block.writeAll_eq_concat (rd : Reading) (d : Dialect) (bs : List (Block (List Span))) :
    Block.writeAll rd d bs = concat (bs.map (Block.write rd d)) := by
  induction bs with
  | nil => rw [Block.writeAll]; rfl
  | cons b bs ih => rw [Block.writeAll, ih, List.map_cons, concat]

theorem Item.write_eq (rd : Reading) (d : Dialect) (i : Item (List Span)) : i.write rd d = (do
    let text ← Block.writeAll rd d i.blocks
    let width ← rd.count (itemMarker i.number).length
    return itemMarker i.number ++ onChars (hangingIndent width) (onChars trim text)) := by
  cases i
  rw [Item.write, Item.blocks, Item.number]

theorem Item.writeAll_eq_mapM (rd : Reading) (d : Dialect) (items : List (Item (List Span))) :
    Item.writeAll rd d items = items.mapM (Item.write rd d) := by
  induction items with
  | nil => rw [Item.writeAll]; rfl
  | cons i items ih => rw [Item.writeAll, ih, List.mapM_cons]

/-! ## Pages -/

namespace Render

/-- A part of a page that is written in one go. -/
inductive Piece where
  | text (s : String)
  | header (level : ℕ) (title : String)
  /-- The header of a declaration: what it is, and its name as a link to its source. -/
  | sourceHeader (level : ℕ) (what name : String) (location : Location) (anchor : String)
  | accordionHeader (title : String)
  | doc (doc : Doc)

/-- The address of a location in its repository. -/
def sourceHref (rd : Reading) (d : Dialect) (l : Location) : Except Error String := do
  let l ← rd.place l
  raised (d.codeHref l)

/-- The text of a piece. -/
def Piece.write (rd : Reading) (d : Dialect) : Piece → Except Error String
  | text s => .ok s
  | header level title => do
    let level ← rd.count level
    raised (Dialect.header level title)
  | sourceHeader level what name location anchor => do
    let href ← sourceHref rd d location
    let level ← rd.count level
    raised (d.rawAnchorHeader level (what ++ Dialect.link (Dialect.escape name) href) anchor)
  | accordionHeader title => raised (d.accordionHeader title)
  | .doc comment => Block.writeAll rd d comment.blocks

/-- The text of a page in a dialect, or the failure of its first piece that cannot be written. -/
def compose (rd : Reading) (d : Dialect) (ps : List Piece) : Except Error String :=
  concat (ps.map (Piece.write rd d))

end Render

namespace Page

section

variable (d : Dialect)

/-- An example: its title, doc comment, code and output. -/
def Example.pieces (e : Example) : List Piece :=
  [.accordionHeader e.title, .doc e.doc, .text (d.codeBlock "go" e.code)] ++
  (match e.output with
    | some output => [.header 4 "Output", .text (d.codeBlock "" output)]
    | none => []) ++
  [.text d.accordionTerminator]

/-- A group of values: its anchor if the dialect has anchors, its doc comment and its declaration. -/
def Value.pieces (v : Value) : List Piece :=
  (if (d.anchor v.anchor).isEmpty then [] else [.text (d.anchor v.anchor), .text "\n\n"]) ++
  [.doc v.doc, .text (d.codeBlock "go" v.decl)]

/-- What the header of a function has in front of its name. -/
def Func.what (f : Func) : String :=
  if f.receiver.isEmpty then "func " else "func \\(" ++ Dialect.escape f.receiver ++ "\\) "

/-- A function: its header, signature, doc comment and examples. -/
def Func.pieces (f : Func) : List Piece :=
  [.sourceHeader f.level f.what f.name f.location f.anchor, .text (d.codeBlock "go" f.signature),
    .doc f.doc] ++
  f.examples.flatMap (Example.pieces d)

/-- A type: its header, doc comment and declaration, and what belongs to it. -/
def TypeDecl.pieces (t : TypeDecl) : List Piece :=
  [.sourceHeader t.level "type " t.name t.location t.anchor, .doc t.doc,
    .text (d.codeBlock "go" t.decl)] ++
  t.consts.flatMap (Value.pieces d) ++
  t.vars.flatMap (Value.pieces d) ++
  t.examples.flatMap (Example.pieces d) ++
  t.funcs.flatMap (Func.pieces d) ++
  t.methods.flatMap (Func.pieces d)

/-- An entry of the index that links to the section of a header. -/
def sectionLink (title : String) : String :=
  Dialect.listEntry 0 (Dialect.link title (d.localHref title))

/-- An entry of the index that links to an anchor. -/
def entryLink (depth : ℕ) (title anchor : String) : String :=
  Dialect.listEntry depth (Dialect.link (Dialect.escape title) (d.rawLocalHref anchor))

/-- The entries of a type in the index: the type, its functions and its methods. -/
def TypeDecl.indexEntries (t : TypeDecl) : List String :=
  [entryLink d 0 t.title t.anchor] ++
  t.funcs.map (fun f => entryLink d 1 f.signature f.anchor) ++
  t.methods.map (fun f => entryLink d 1 f.signature f.anchor)

/-- The index of a package. -/
def Package.indexEntries (p : Package) : List String :=
  (if p.consts.isEmpty then [] else [sectionLink d "Constants"]) ++
  (if p.vars.isEmpty then [] else [sectionLink d "Variables"]) ++
  p.funcs.map (fun f => entryLink d 0 f.signature f.anchor) ++
  p.types.flatMap (TypeDecl.indexEntries d) ++
  (if p.consts.isEmpty && p.vars.isEmpty && p.funcs.isEmpty && p.types.isEmpty then [] else ["\n"])

/-- A section of values, if there are any. -/
def valueSection (level : ℕ) (title : String) (vs : List Value) : List Piece :=
  if vs.isEmpty then [] else .header level title :: vs.flatMap (Value.pieces d)

/-- A package: header, import, doc comment, examples, index, constants, variables, functions and types. -/
def Package.pieces (p : Package) : List Piece :=
  [.header p.level (if p.name = "main" then p.dirname else p.name),
    .text (d.codeBlock "go" p.importDecl), .doc p.doc] ++
  p.examples.flatMap (Example.pieces d) ++
  [.header (p.level + 1) "Index", .text (String.join (p.indexEntries d))] ++
  valueSection d (p.level + 1) "Constants" p.consts ++
  valueSection d (p.level + 1) "Variables" p.vars ++
  p.funcs.flatMap (Func.pieces d) ++
  p.types.flatMap (TypeDecl.pieces d)

end

end Page

/-! ## Blocks that can be written -/

section

variable (d : Dialect)

theorem rawHeader_of_pos {level : ℕ} (h : 1 ≤ level) (text : String) :
    Dialect.rawHeader level text = .ok ("".pushn '#' (min level 6) ++ " " ++ text ++ "\n\n") :=
  if_neg (Nat.not_lt.2 h)

mutual

/-- A block can be written if all levels inside of it are positive. -/
theorem Block.exists_write (b : Block (List Span))
    (h : ∀ c : Block (List Span), c.Occurs [b] → 1 ≤ c.level) : ∃ t, b.write .exact d = .ok t := by
  cases b with
  | paragraph level spans => rw [Block.write]; exact ⟨_, rfl⟩
  | code level text => rw [Block.write]; exact ⟨_, rfl⟩
  | header level spans =>
    have hlevel : 1 ≤ level := h _ (.here List.mem_cons_self)
    rw [Block.write, Reading.exact, ok_bind, rawHeader_of_pos hlevel]
    exact ⟨_, rfl⟩
  | list level between items =>
    obtain ⟨texts, htexts⟩ := Item.exists_writeAll items fun i hi c hc =>
      h c (.inside List.mem_cons_self hi hc)
    rw [Block.write, htexts]
    exact ⟨_, rfl⟩

theorem Block.exists_writeAll (bs : List (Block (List Span)))
    (h : ∀ c : Block (List Span), c.Occurs bs → 1 ≤ c.level) :
    ∃ t, Block.writeAll .exact d bs = .ok t := by
  cases bs with
  | nil => rw [Block.writeAll]; exact ⟨_, rfl⟩
  | cons b bs =>
    obtain ⟨t, ht⟩ := Block.exists_write b fun c hc =>
      h c (hc.mono (List.cons_subset_cons b (List.nil_subset bs)))
    obtain ⟨rest, hrest⟩ := Block.exists_writeAll bs fun c hc =>
      h c (hc.mono (List.subset_cons_self b bs))
    rw [Block.writeAll, ht, hrest]
    exact ⟨_, rfl⟩

theorem Item.exists_write (i : Item (List Span))
    (h : ∀ c : Block (List Span), c.Occurs i.blocks → 1 ≤ c.level) :
    ∃ t, i.write .exact d = .ok t := by
  obtain ⟨number, blocks⟩ := i
  obtain ⟨t, ht⟩ := Block.exists_writeAll blocks h
  rw [Item.write, ht]
  exact ⟨_, rfl⟩

theorem Item.exists_writeAll (items : List (Item (List Span)))
    (h : ∀ i ∈ items, ∀ c : Block (List Span), c.Occurs i.blocks → 1 ≤ c.level) :
    ∃ ts, Item.writeAll .exact d items = .ok ts := by
  cases items with
  | nil => rw [Item.writeAll]; exact ⟨_, rfl⟩
  | cons i items =>
    obtain ⟨t, ht⟩ := Item.exists_write i (h i List.mem_cons_self)
    obtain ⟨ts, hts⟩ := Item.exists_writeAll items fun j hj => h j (List.mem_cons_of_mem i hj)
    rw [Item.writeAll, ht, hts]
    exact ⟨_, rfl⟩

end

variable {d}

theorem rawHeader_ends {level : ℕ} {text t : String} (h : Dialect.rawHeader level text = .ok t) :
    ∃ s, t = s ++ "\n\n" := by
  unfold Dialect.rawHeader at h
  split_ifs at h
  cases h
  exact ⟨_, rfl⟩

theorem codeBlock_ends (language code : String) : ∃ s, d.codeBlock language code = s ++ "\n\n" := by
  cases d with
  | plain => exact ⟨_, rfl⟩
  | github | azureDevOps =>
    have htail : "\n\x60\x60\x60\n\n" = "\n\x60\x60\x60" ++ "\n\n" := by decide
    exact ⟨_, (congrArg _ htail).trans String.append_assoc.symm⟩

/-- Every block ends in a blank line. -/
theorem Block.write_ends {rd : Reading} {b : Block (List Span)} {t : String}
    (h : b.write rd d = .ok t) : ∃ s, t = s ++ "\n\n" := by
  cases b with
  | paragraph level spans =>
    rw [Block.write] at h
    cases h
    exact ⟨_, rfl⟩
  | code level text =>
    rw [Block.write] at h
    cases h
    exact codeBlock_ends "" text
  | header level spans =>
    rw [Block.write] at h
    cases hlevel : rd.count level with
    | error e => rw [hlevel] at h; cases h
    | ok l =>
      rw [hlevel, ok_bind] at h
      cases htext : Dialect.rawHeader l (d.inline spans) with
      | error e => rw [htext] at h; cases h
      | ok text =>
        rw [htext] at h
        cases h
        exact rawHeader_ends htext
  | list level between items =>
    rw [Block.write] at h
    cases htexts : Item.writeAll rd d items with
    | error e => rw [htexts] at h; cases h
    | ok texts =>
      rw [htexts] at h
      cases h
      exact ⟨_, rfl⟩

end

/-! ## Machine words -/

/-- The level and the numbers of items are machine words. -/
def Block.Fits {α : Type} (b : Block α) : Prop :=
  b.level < Data.wordSize ∧
    match b with
    | .list _ _ items => ∀ i ∈ items, ∀ n ∈ i.number, n < Data.wordSize
    | _ => True

theorem length_itemMarker_lt {number : Option ℕ} (h : ∀ n ∈ number, n < Data.wordSize) :
    (itemMarker number).length < Data.wordSize := by
  have hword : 22 < Data.wordSize := by decide
  have hpow : Data.wordSize ≤ 10 ^ 20 := by decide
  cases number with
  | none => exact Nat.lt_trans (by decide : "- ".length < 22) hword
  | some n =>
    have hlength := Nat.repr_length n 20 (by decide) (Nat.lt_of_lt_of_le (h n rfl) hpow)
    have hdot : ". ".length = 2 := by decide
    rw [itemMarker, String.length_append]
    omega

section

variable {fit : Prop} (d : Dialect)

mutual

/-- Words write a block as exact numbers do, or not at all. -/
theorem Block.agree_write (b : Block (List Span))
    (h : fit → ∀ c : Block (List Span), c.Occurs [b] → c.Fits) :
    Agree fit (b.write .words d) (b.write .exact d) := by
  cases b with
  | paragraph level spans => rw [Block.write, Block.write]; exact Agree.refl _
  | code level text => rw [Block.write, Block.write]; exact Agree.refl _
  | header level spans =>
    rw [Block.write, Block.write]
    have hlevel : fit → level < Data.wordSize :=
      fun hfit => (h hfit _ (.here List.mem_cons_self)).1
    exact (agree_count hlevel).bind fun _ => Agree.refl _
  | list level between items =>
    rw [Block.write, Block.write]
    refine (Item.agree_writeAll items (fun hfit => ?_) fun hfit i hi c hc => ?_).bind
      fun _ => Agree.refl _
    · exact (h hfit _ (.here List.mem_cons_self)).2
    · exact h hfit c (.inside List.mem_cons_self hi hc)

theorem Block.agree_writeAll (bs : List (Block (List Span)))
    (h : fit → ∀ c : Block (List Span), c.Occurs bs → c.Fits) :
    Agree fit (Block.writeAll .words d bs) (Block.writeAll .exact d bs) := by
  cases bs with
  | nil => rw [Block.writeAll, Block.writeAll]; exact Agree.refl _
  | cons b bs =>
    rw [Block.writeAll, Block.writeAll]
    have hb := Block.agree_write b fun hfit c hc =>
      h hfit c (hc.mono (List.cons_subset_cons b (List.nil_subset bs)))
    have hbs := Block.agree_writeAll bs fun hfit c hc => h hfit c (hc.mono (List.subset_cons_self b bs))
    exact hb.bind fun _ => hbs.bind fun _ => Agree.refl _

theorem Item.agree_write (i : Item (List Span)) (hnumber : fit → ∀ n ∈ i.number, n < Data.wordSize)
    (h : fit → ∀ c : Block (List Span), c.Occurs i.blocks → c.Fits) :
    Agree fit (i.write .words d) (i.write .exact d) := by
  obtain ⟨number, blocks⟩ := i
  rw [Item.write, Item.write]
  refine (Block.agree_writeAll blocks h).bind fun _ => ?_
  exact (agree_count fun hfit => length_itemMarker_lt (hnumber hfit)).bind fun _ => Agree.refl _

theorem Item.agree_writeAll (items : List (Item (List Span)))
    (hnumber : fit → ∀ i ∈ items, ∀ n ∈ i.number, n < Data.wordSize)
    (h : fit → ∀ i ∈ items, ∀ c : Block (List Span), c.Occurs i.blocks → c.Fits) :
    Agree fit (Item.writeAll .words d items) (Item.writeAll .exact d items) := by
  cases items with
  | nil => rw [Item.writeAll, Item.writeAll]; exact Agree.refl _
  | cons i items =>
    rw [Item.writeAll, Item.writeAll]
    have hi := Item.agree_write i (fun hfit => hnumber hfit i List.mem_cons_self)
      fun hfit => h hfit i List.mem_cons_self
    have hitems := Item.agree_writeAll items
      (fun hfit j hj => hnumber hfit j (List.mem_cons_of_mem i hj))
      fun hfit j hj => h hfit j (List.mem_cons_of_mem i hj)
    exact hi.bind fun _ => hitems.bind fun _ => Agree.refl _

end

end

namespace Render

/-- The numbers and positions that are read for a piece are machine words. -/
def Piece.Fits : Piece → Prop
  | text _ | accordionHeader _ => True
  | header level _ => level < Data.wordSize
  | sourceHeader level _ _ location _ => level < Data.wordSize ∧ location.Fits
  | .doc comment => ∀ b : Block (List Span), b.Occurs comment.blocks → b.Fits

theorem Piece.agree_write (d : Dialect) (p : Piece) :
    Agree p.Fits (p.write .words d) (p.write .exact d) := by
  cases p with
  | text s => rw [Piece.write, Piece.write]; exact Agree.refl _
  | header level title =>
    rw [Piece.write, Piece.write]
    refine Agree.bind (agree_count ?_) fun _ => Agree.refl _
    exact fun h => h
  | sourceHeader level what name location anchor =>
    rw [Piece.write, Piece.write]
    have hhref : Agree (Piece.Fits (.sourceHeader level what name location anchor))
        (sourceHref .words d location) (sourceHref .exact d location) :=
      (agree_place fun h => h.2).bind fun _ => Agree.refl _
    refine hhref.bind fun _ => Agree.bind (agree_count ?_) fun _ => Agree.refl _
    exact fun h => h.1
  | accordionHeader title => rw [Piece.write, Piece.write]; exact Agree.refl _
  | doc comment => exact Block.agree_writeAll d comment.blocks id

theorem agree_compose (d : Dialect) (ps : List Piece) :
    Agree (∀ p ∈ ps, p.Fits) (compose .words d ps) (compose .exact d ps) := by
  refine agree_concat fun p hp => ?_
  exact ⟨fun hfit => (p.agree_write d).1 (hfit p hp), (p.agree_write d).2⟩

end Render

end DocPages
