import DocPages.Template.Tree

/-!
# Comparing template trees

Trees are nested through lists, so that they have no derived equality. They are compared constructor by
constructor with a test that comes with its proof: where it succeeds, it says that the trees are equal
(`sameBody`). Nothing is said where it fails. Only constants that can be written in a template are compared.
-/

namespace DocPages.Template

/-- A proof that two things are equal, if one was found. -/
abbrev Same {α : Type} (a b : α) : Type :=
  Option (PLift (a = b))

namespace Same

variable {α β γ δ : Type} {a a' : α} {b b' : β} {c c' : γ}

def yes (a : α) : Same a a :=
  some ⟨rfl⟩

def ofDecidable [DecidableEq α] (a a' : α) : Same a a' :=
  if h : a = a' then some ⟨h⟩ else none

def map (f : α → β) : Same a a' → Same (f a) (f a')
  | some h => some ⟨congrArg f h.down⟩
  | none => none

def map₂ (f : α → β → γ) : Same a a' → Same b b' → Same (f a b) (f a' b')
  | some h, some k => some ⟨congr (congrArg f h.down) k.down⟩
  | _, _ => none

def map₃ (f : α → β → γ → δ) (h : Same a a') (k : Same b b') (l : Same c c') :
    Same (f a b c) (f a' b' c') :=
  map₂ (fun (p : α × β) => f p.1 p.2) (map₂ Prod.mk h k) l

end Same

open Same

/-! ## Expressions -/

def sameValue : (v w : Value) → Same v w
  | .none, .none => yes _
  | .bool a, .bool b => (ofDecidable a b).map Value.bool
  | .int m, .int n => (ofDecidable m n).map Value.int
  | .decimal m k, .decimal n l => (ofDecidable m n).map₂ Value.decimal (ofDecidable k l)
  | .str s, .str t => (ofDecidable s t).map Value.str
  | _, _ => none

mutual

def sameExpr : (e f : Expr) → Same e f
  | .const v, .const w => (sameValue v w).map Expr.const
  | .name x, .name y => (ofDecidable x y).map Expr.name
  | .list as, .list bs => (sameExprs as bs).map Expr.list
  | .map as, .map bs => (sameEntries as bs).map Expr.map
  | .attr a x, .attr b y => (sameExpr a b).map₂ Expr.attr (ofDecidable x y)
  | .item a k, .item b l => (sameExpr a b).map₂ Expr.item (sameExpr k l)
  | .call f as, .call g bs => (ofDecidable f g).map₂ Expr.call (sameExprs as bs)
  | .apply a as, .apply b bs => (sameExpr a b).map₂ Expr.apply (sameExprs as bs)
  | .filter a f as, .filter b g bs =>
    (sameExpr a b).map₃ Expr.filter (ofDecidable f g) (sameExprs as bs)
  | .not a, .not b => (sameExpr a b).map Expr.not
  | .neg a, .neg b => (sameExpr a b).map Expr.neg
  | .eq a c, .eq b d => (sameExpr a b).map₂ Expr.eq (sameExpr c d)
  | .concat a c, .concat b d => (sameExpr a b).map₂ Expr.concat (sameExpr c d)
  | .and a c, .and b d => (sameExpr a b).map₂ Expr.and (sameExpr c d)
  | .or a c, .or b d => (sameExpr a b).map₂ Expr.or (sameExpr c d)
  | .cond a c none, .cond b d none => (sameExpr a b).map₂ (Expr.cond · · none) (sameExpr c d)
  | .cond a c (some e), .cond b d (some f) =>
    (sameExpr a b).map₃ (Expr.cond · · <| some ·) (sameExpr c d) (sameExpr e f)
  | _, _ => none

def sameExprs : (as bs : List Expr) → Same as bs
  | [], [] => yes _
  | a :: as, b :: bs => (sameExpr a b).map₂ List.cons (sameExprs as bs)
  | _, _ => none

def sameEntries : (as bs : List (Expr × Expr)) → Same as bs
  | [], [] => yes _
  | (k, a) :: as, (l, b) :: bs =>
    (sameExpr k l).map₃ (fun key e es => (key, e) :: es) (sameExpr a b) (sameEntries as bs)
  | _, _ => none

end

/-! ## Statements -/

def sameParams : (ps qs : List (String × Option Expr)) → Same ps qs
  | [], [] => yes _
  | (x, none) :: ps, (y, none) :: qs =>
    (ofDecidable x y).map₂ (fun x ps => (x, none) :: ps) (sameParams ps qs)
  | (x, some a) :: ps, (y, some b) :: qs =>
    (ofDecidable x y).map₃ (fun x e ps => (x, some e) :: ps) (sameExpr a b) (sameParams ps qs)
  | _, _ => none

mutual

def sameStmt : (s t : Stmt) → Same s t
  | .text s, .text t => (ofDecidable s t).map Stmt.text
  | .emit a, .emit b => (sameExpr a b).map Stmt.emit
  | .cond a c e, .cond b d f => (sameExpr a b).map₃ Stmt.cond (sameBody c d) (sameBody e f)
  | .loop xs a c e, .loop ys b d f =>
    (map₂ Prod.mk (ofDecidable xs ys) (sameExpr a b)).map₃ (fun head => Stmt.loop head.1 head.2)
      (sameBody c d) (sameBody e f)
  | .assign x a, .assign y b => (ofDecidable x y).map₂ Stmt.assign (sameExpr a b)
  | .define f ps c, .define g qs d =>
    (ofDecidable f g).map₃ Stmt.define (sameParams ps qs) (sameBody c d)
  | .insert a, .insert b => (sameExpr a b).map Stmt.insert
  | _, _ => none

def sameBody : (ss ts : List Stmt) → Same ss ts
  | [], [] => yes _
  | s :: ss, t :: ts => (sameStmt s t).map₂ List.cons (sameBody ss ts)
  | _, _ => none

end

end DocPages.Template
